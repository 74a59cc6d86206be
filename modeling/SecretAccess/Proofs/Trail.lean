import SecretAccess.Host.FileTree
import Mathlib.Data.List.Basic

/-!
# The trail of a path

Following a path looks at some locations of a tree and at no others. Trees that
differ only at some places therefore agree on every path whose trail avoids
these, and list a directory alike unless it holds one of them (`find_congr`,
`list_congr`).
-/

namespace SecretAccess

open Host

namespace Host.FileTree

/-- The locations at which a walk looks, on its way and at its end. -/
def trail (t : FileTree) (links : Nat) (here : Location) : List FileName → List Location
  | [] => [here]
  | name :: rest =>
    if !t.isDirectoryAt here then [here]
    else if t.bars here name then [here]
    else if name = Path.inside || name = Path.here then here :: t.trail links here rest
    else if name = Path.parent then here :: t.trail links here.dropLast rest
    else if maxName < name.length then [here]
    else
      match t.node? (here ++ [name]) with
      | none => [here, here ++ [name]]
      | some (.link target) =>
        match links with
        | 0 => [here, here ++ [name]]
        | links + 1 =>
          let start := if Path.isAbsolute target then [] else here
          here :: (here ++ [name]) :: t.trail links start (Path.steps target ++ rest)
      | some _ => here :: (here ++ [name]) :: t.trail links (t.opened (here ++ [name])) rest
termination_by steps => (links, steps.length)

def trailOf (t : FileTree) (path : String) : List Location :=
  let bytes := Text.Utf8.encode path
  t.trail maxLinks (t.startOf bytes) (Path.steps bytes)

/-- Whether a location is one of the places, or lies below one. -/
def isCovered (places : List Location) (l : Location) : Bool := places.any (·.isPrefixOf l)

/-- What is left of a tree when the places are cleared. -/
def without (t : FileTree) (places : List Location) : FileTree :=
  { t with
    entries := t.entries.filter fun e => !isCovered places e.1
    denied := t.denied.filter fun d => !isCovered places d.1 }

/-- The trees differ at the places and below them, if at all. -/
def SameOutside (places : List Location) (t t' : FileTree) : Prop :=
  t.without places = t'.without places

/-- Whether a path is followed without looking at any of the places. -/
def avoids (t : FileTree) (places : List Location) (path : String) : Bool :=
  (t.trailOf path).all (!isCovered places ·)

/-- Whether a path is followed like this and leads to a directory that holds
none of the places. -/
def listAvoids (t : FileTree) (places : List Location) (path : String) : Bool :=
  t.avoids places path &&
    match t.find path with
    | .ok (l, _) => places.all (·.dropLast ≠ l)
    | .error _ => true

variable {places : List Location} {t t' : FileTree} {l : Location} {n : Node} {path : String}

-- ---------------------------------------------------------------------------
-- Trees that differ at some places
-- ---------------------------------------------------------------------------

theorem lookup_filter_of_not {α β : Type} [BEq α] [LawfulBEq α] {covered : α → Bool} {a : α}
    (ha : covered a = false) (es : List (α × β)) :
    (es.filter fun e => !covered e.1).lookup a = es.lookup a := by
  induction es with
  | nil => rfl
  | cons e es ih =>
    obtain ⟨b, n⟩ := e
    by_cases hb : a = b
    · subst hb
      simp [ha]
    · cases hc : covered b <;> simp [hc, List.lookup_cons, beq_false_of_ne hb, ih]

theorem node?_without (hl : isCovered places l = false) :
    (t.without places).node? l = t.node? l := by
  cases l with
  | nil => rfl
  | cons name l => exact lookup_filter_of_not hl t.entries

theorem denies_without (hl : isCovered places l = false) (right : Right) :
    (t.without places).denies right l = t.denies right l := by
  simp [denies, without, hl]

/-- The trees say the same of a location: what is there, and what is refused. -/
structure SameAt (t t' : FileTree) (l : Location) : Prop where
  node : t'.node? l = t.node? l
  denies : ∀ right, t'.denies right l = t.denies right l

theorem sameAt_of_not_isCovered (hs : SameOutside places t t') (hl : isCovered places l = false) :
    SameAt t t' l where
  node := by rw [← node?_without hl, ← hs, node?_without hl]
  denies right := by rw [← denies_without hl, ← hs, denies_without hl]

theorem streams_congr (hs : SameOutside places t t') : t'.streams = t.streams :=
  (congrArg FileTree.streams hs :).symm

theorem isCovered_iff : isCovered places l ↔ ∃ place ∈ places, place <+: l := by
  simp [isCovered]

/-- A covered entry lies in no directory that is left alone. -/
theorem dropLast_ne_of_isCovered {e : Location} (hl : isCovered places l = false)
    (hp : ∀ place ∈ places, place.dropLast ≠ l) (he : e ≠ []) (hc : isCovered places e) :
    e.dropLast ≠ l := by
  intro hd
  obtain ⟨place, hm, hpre⟩ := isCovered_iff.mp hc
  rw [← List.dropLast_concat_getLast he, hd] at hpre
  -- the place is the entry itself, or it covers the directory too
  rcases List.prefix_concat_iff.mp hpre with heq | hpre
  · exact hp place hm (by rw [heq, List.dropLast_concat])
  · exact absurd (isCovered_iff.mpr ⟨place, hm, hpre⟩) (by simp [hl])

/-- Clearing the places does not show in a directory that holds none of them. -/
theorem childrenAt_without (hl : isCovered places l = false)
    (hp : ∀ place ∈ places, place.dropLast ≠ l) :
    (t.without places).childrenAt l = t.childrenAt l := by
  rw [childrenAt, childrenAt, without, List.filterMap_filter]
  refine congrArg _ (List.filterMap_congr fun e _ => ?_)
  cases hc : isCovered places e.1 with
  | false => simp
  | true =>
    by_cases he : e.1 = []
    · simp [he]
    · simp [dropLast_ne_of_isCovered hl hp he hc]

theorem childrenAt_congr (hs : SameOutside places t t') (hl : isCovered places l = false)
    (hp : ∀ place ∈ places, place.dropLast ≠ l) : t'.childrenAt l = t.childrenAt l := by
  rw [← childrenAt_without hl hp, ← hs, childrenAt_without hl hp]

-- ---------------------------------------------------------------------------
-- Paths that lead past the places
-- ---------------------------------------------------------------------------

section Walk

variable {links : Nat} {here : Location} {name : FileName} {rest names : List FileName}

/-- The name stands for an entry of the directory where the walk is, which may be
searched. -/
structure Enters (t : FileTree) (here : Location) (name : FileName) : Prop where
  directory : ¬(!t.isDirectoryAt here) = true
  unbarred : ¬ t.bars here name = true
  moves : ¬(name = Path.inside || name = Path.here) = true
  down : name ≠ Path.parent
  short : ¬ maxName < name.length

theorem walk_of_not_directory (hd : (!t.isDirectoryAt here) = true) :
    t.walk .use links here (name :: rest) =
      .error (if (t.node? here).isSome then .notADirectory else .notFound) := by
  rw [walk, if_pos hd]

theorem walk_of_barred (hd : ¬(!t.isDirectoryAt here) = true) (hb : t.bars here name = true) :
    t.walk .use links here (name :: rest) = .error .permissionDenied := by
  rw [walk, if_neg hd, if_pos hb]

theorem walk_of_stays (hd : ¬(!t.isDirectoryAt here) = true) (hb : ¬ t.bars here name = true)
    (hn : (name = Path.inside || name = Path.here) = true) :
    t.walk .use links here (name :: rest) = t.walk .use links here rest := by
  rw [walk, if_neg hd, if_neg hb, if_pos hn]

theorem walk_of_parent (hd : ¬(!t.isDirectoryAt here) = true)
    (hb : ¬ t.bars here Path.parent = true) :
    t.walk .use links here (Path.parent :: rest) = t.walk .use links here.dropLast rest := by
  rw [walk, if_neg hd, if_neg hb, if_neg (by decide), if_pos rfl]

theorem walk_of_long (hd : ¬(!t.isDirectoryAt here) = true) (hb : ¬ t.bars here name = true)
    (hm : ¬(name = Path.inside || name = Path.here) = true) (hp : name ≠ Path.parent)
    (hn : maxName < name.length) :
    t.walk .use links here (name :: rest) = .error .nameTooLong := by
  rw [walk, if_neg hd, if_neg hb, if_neg hm, if_neg hp, if_neg (by simp), if_pos hn]

theorem walk_of_enters (he : t.Enters here name) :
    t.walk .use links here (name :: rest) =
      match t.node? (here ++ [name]) with
      | none => if rest.isEmpty then .ok (here ++ [name]) else .error .notFound
      | some (.link target) =>
        match links with
        | 0 => .error .tooManyLinks
        | links + 1 =>
          t.walk .use links (if Path.isAbsolute target then [] else here)
            (Path.steps target ++ rest)
      | some _ => t.walk .use links (t.opened (here ++ [name])) rest := by
  have hd := he.directory
  have hb := he.unbarred
  have hm := he.moves
  cases hn : t.node? (here ++ [name]) with
  | none =>
    rw [walk, if_neg hd, if_neg hb, if_neg hm, if_neg he.down, if_neg (by simp),
      if_neg he.short, hn]
  | some n =>
    cases n <;> cases links <;>
      rw [walk, if_neg hd, if_neg hb, if_neg hm, if_neg he.down, if_neg (by simp),
        if_neg he.short, hn]

theorem mem_trail_of_walk (h : t.walk .use links here names = .ok l) :
    l ∈ t.trail links here names := by
  fun_induction trail t links here names with
  | case1 => simp_all [walk]
  | case2 links here name rest hd => simp [walk_of_not_directory hd] at h
  | case3 links here name rest hd hb => simp [walk_of_barred hd hb] at h
  | case4 links here name rest hd hb hn ih =>
    rw [walk_of_stays hd hb hn] at h
    exact List.mem_cons_of_mem _ (ih h)
  | case5 links here rest hd hb hm ih =>
    rw [walk_of_parent hd hb] at h
    exact List.mem_cons_of_mem _ (ih h)
  | case6 links here name rest hd hb hm hp hn => simp [walk_of_long hd hb hm hp hn] at h
  | case7 links here name rest hd hb hm hp hn hx =>
    rw [walk_of_enters ⟨hd, hb, hm, hp, hn⟩, hx] at h
    cases rest with
    | nil =>
      cases h
      simp
    | cons => cases h
  | case8 here name rest hd hb hm hp hn target hx =>
    rw [walk_of_enters ⟨hd, hb, hm, hp, hn⟩, hx] at h
    cases h
  | case9 here name rest hd hb hm hp hn target hx links start ih =>
    rw [walk_of_enters ⟨hd, hb, hm, hp, hn⟩, hx] at h
    exact List.mem_cons_of_mem _ (List.mem_cons_of_mem _ (ih h))
  | case10 links here name rest hd hb hm hp hn node hl hx ih =>
    rw [walk_of_enters ⟨hd, hb, hm, hp, hn⟩] at h
    simp only [hx] at h
    exact List.mem_cons_of_mem _ (List.mem_cons_of_mem _ (ih h))

theorem SameAt.isDirectoryAt (h : SameAt t t' l) : t'.isDirectoryAt l = t.isDirectoryAt l := by
  simp [FileTree.isDirectoryAt, h.node]

theorem SameAt.bars (h : SameAt t t' l) (name : FileName) : t'.bars l name = t.bars l name := by
  simp [FileTree.bars, h.denies]

theorem SameAt.opened (h : SameAt t t' l) (hs : t'.streams = t.streams) :
    t'.opened l = t.opened l := by
  simp only [FileTree.opened, h.node, hs]

theorem Enters.congr (he : t.Enters here name) (h : SameAt t t' here) : t'.Enters here name :=
  ⟨h.isDirectoryAt ▸ he.directory, h.bars name ▸ he.unbarred, he.moves, he.down, he.short⟩

/-- A walk is settled by the locations at which it looks. -/
theorem walk_congr (hs : t'.streams = t.streams)
    (h : ∀ l ∈ t.trail links here names, SameAt t t' l) :
    t'.walk .use links here names = t.walk .use links here names := by
  fun_induction trail t links here names with
  | case1 => simp [walk]
  | case2 links here name rest hd =>
    have hh := h here (by simp)
    rw [walk_of_not_directory hd, walk_of_not_directory (hh.isDirectoryAt ▸ hd), hh.node]
  | case3 links here name rest hd hb =>
    have hh := h here (by simp)
    rw [walk_of_barred hd hb, walk_of_barred (hh.isDirectoryAt ▸ hd) (hh.bars name ▸ hb)]
  | case4 links here name rest hd hb hn ih =>
    have hh := h here (by simp)
    rw [walk_of_stays hd hb hn,
      walk_of_stays (hh.isDirectoryAt ▸ hd) (hh.bars name ▸ hb) hn]
    exact ih fun l hl => h l (.tail _ hl)
  | case5 links here rest hd hb hm ih =>
    have hh := h here (by simp)
    rw [walk_of_parent hd hb, walk_of_parent (hh.isDirectoryAt ▸ hd) (hh.bars _ ▸ hb)]
    exact ih fun l hl => h l (.tail _ hl)
  | case6 links here name rest hd hb hm hp hn =>
    have hh := h here (by simp)
    rw [walk_of_long hd hb hm hp hn,
      walk_of_long (hh.isDirectoryAt ▸ hd) (hh.bars name ▸ hb) hm hp hn]
  | case7 links here name rest hd hb hm hp hn hx =>
    have he : t.Enters here name := ⟨hd, hb, hm, hp, hn⟩
    rw [walk_of_enters he, walk_of_enters (he.congr (h here (by simp))),
      (h (here ++ [name]) (by simp)).node]
    simp only [hx]
  | case8 here name rest hd hb hm hp hn target hx =>
    have he : t.Enters here name := ⟨hd, hb, hm, hp, hn⟩
    rw [walk_of_enters he, walk_of_enters (he.congr (h here (by simp))),
      (h (here ++ [name]) (by simp)).node]
    simp only [hx]
  | case9 here name rest hd hb hm hp hn target hx links start ih =>
    have he : t.Enters here name := ⟨hd, hb, hm, hp, hn⟩
    rw [walk_of_enters he, walk_of_enters (he.congr (h here (by simp))),
      (h (here ++ [name]) (by simp)).node]
    simp only [hx]
    exact ih fun l hl => h l (.tail _ (.tail _ hl))
  | case10 links here name rest hd hb hm hp hn node hl hx ih =>
    have he : t.Enters here name := ⟨hd, hb, hm, hp, hn⟩
    have hh := h (here ++ [name]) (by simp)
    rw [walk_of_enters he, walk_of_enters (he.congr (h here (by simp))), hh.node,
      hh.opened hs]
    simp only [hx]
    exact ih fun l hl => h l (.tail _ (.tail _ hl))

end Walk

-- ---------------------------------------------------------------------------
-- What is found at the end
-- ---------------------------------------------------------------------------

theorem locate_eq_ok_iff : t.locate .use path = .ok l ↔
    0 ∉ Text.Utf8.encode path ∧ Text.Utf8.encode path ≠ [] ∧
      (Text.Utf8.encode path).length < maxPath ∧
      t.walk .use maxLinks (t.startOf (Text.Utf8.encode path))
        (Path.steps (Text.Utf8.encode path)) = .ok l := by
  simp only [locate]
  split
  case isTrue h => simp_all
  case isFalse h =>
    split
    case isTrue h => simp_all
    case isFalse h =>
      split
      case isTrue h => simp_all [Nat.not_lt.mpr h]
      case isFalse h => simp_all [Nat.not_le.mp h]

theorem find_eq_ok_iff :
    t.find path = .ok (l, n) ↔ t.locate .use path = .ok l ∧ t.node? l = some n := by
  unfold find
  cases t.locate .use path with
  | error f => simp [bind, Except.bind]
  | ok l' =>
    simp only [bind, Except.bind, Except.ok.injEq]
    split
    case h_1 n' hn =>
      constructor
      · intro h
        cases h
        exact ⟨rfl, hn⟩
      · rintro ⟨rfl, hn'⟩
        cases hn.symm.trans hn'
        rfl
    case h_2 hn =>
      refine ⟨fun h => (nomatch h), ?_⟩
      rintro ⟨rfl, hn'⟩
      cases hn.symm.trans hn'

theorem not_isCovered_of_avoids (ha : t.avoids places path) (hl : l ∈ t.trailOf path) :
    isCovered places l = false := by
  simpa using List.all_eq_true.mp ha l hl

theorem startOf_congr (hs : SameOutside places t t') (bytes : List UInt8) :
    t'.startOf bytes = t.startOf bytes := by
  have hw : (t.without places).working = (t'.without places).working :=
    congrArg FileTree.working hs
  have hw : t.working = t'.working := hw
  rw [startOf, startOf, hw]

theorem locate_congr (hs : SameOutside places t t') (ha : t.avoids places path) :
    t'.locate .use path = t.locate .use path := by
  have hw := walk_congr (streams_congr hs) fun l hl =>
    sameAt_of_not_isCovered hs (not_isCovered_of_avoids ha hl)
  simp only [locate, startOf_congr hs, hw]

theorem mem_trailOf_of_locate (h : t.locate .use path = .ok l) : l ∈ t.trailOf path := by
  obtain ⟨-, -, -, hw⟩ := locate_eq_ok_iff.mp h
  exact mem_trail_of_walk hw

/-- A path that avoids the places leads to the same in both trees. -/
theorem find_congr (hs : SameOutside places t t') (ha : t.avoids places path) :
    t'.find path = t.find path := by
  rw [find, find, locate_congr hs ha]
  cases hl : t.locate .use path with
  | error f => rfl
  | ok l =>
    have hn : SameAt t t' l :=
      sameAt_of_not_isCovered hs (not_isCovered_of_avoids ha (mem_trailOf_of_locate hl))
    simp only [bind, Except.bind, hn.node]

theorem isDirectory_congr (hs : SameOutside places t t') (ha : t.avoids places path) :
    t'.isDirectory path = t.isDirectory path := by
  rw [isDirectory, isDirectory, find_congr hs ha]

theorem mem_trailOf_of_find (h : t.find path = .ok (l, n)) : l ∈ t.trailOf path :=
  mem_trailOf_of_locate (find_eq_ok_iff.mp h).1

theorem sameAt_of_find (hs : SameOutside places t t') (ha : t.avoids places path)
    (h : t.find path = .ok (l, n)) : SameAt t t' l :=
  sameAt_of_not_isCovered hs (not_isCovered_of_avoids ha (mem_trailOf_of_find h))

theorem readText_congr (hs : SameOutside places t t') (ha : t.avoids places path) :
    t'.readText path = t.readText path := by
  rw [readText, readText, readBytes, readBytes, find_congr hs ha]
  cases hf : t.find path with
  | error f => rfl
  | ok found =>
    obtain ⟨l, n⟩ := found
    have hd := (sameAt_of_find hs ha hf).denies .read
    have hc : t'.contents n = t.contents n := by
      simp only [contents, streams_congr hs]
    simp only [bind, Except.bind, hd, hc]

theorem list_congr (hs : SameOutside places t t') (ha : t.listAvoids places path) :
    t'.list path = t.list path := by
  obtain ⟨ha, hp⟩ := Bool.and_eq_true_iff.mp ha
  rw [list, list, find_congr hs ha]
  cases hf : t.find path with
  | error f => rfl
  | ok found =>
    obtain ⟨l, n⟩ := found
    rw [hf] at hp
    have hd := (sameAt_of_find hs ha hf).denies .read
    have hc := childrenAt_congr hs (not_isCovered_of_avoids ha (mem_trailOf_of_find hf))
      fun place hm => of_decide_eq_true (List.all_eq_true.mp hp place hm)
    cases n <;> simp [bind, Except.bind, hd, hc]

end Host.FileTree

end SecretAccess
