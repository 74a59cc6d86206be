import SecretAccess.Proofs.Trail
import SecretAccess.Text.Utf8.Laws

/-!
# Where a path leads

Where a path leads is settled by what there is: a step stays, goes up, enters
what has its name, or goes the way of a link (`Goes`, `Leads`). The host follows
a path only so far, though: over forty links, and through directories that may
be searched (`walk_eq_ok_iff`). So an entry that is a directory, or links to one,
is found to be one under its path if this can be followed
(`isDirectory_join_iff`), and what a directory lists is what it has, if its own
path can be followed and it may be read (`list_eq_ok_iff`).
-/

namespace SecretAccess.Host

namespace FileTree

/-- What one step from a directory comes to: where the walk goes on, the steps that
it then takes before the others, whether the directory is searched for it, and
how many links it crosses. -/
inductive Goes (t : FileTree) (here : Location) :
    FileName → Location → List FileName → List Location → Nat → Prop
  | inside : Goes t here Path.inside here [] [] 0
  | stay : Goes t here Path.here here [] [here] 0
  | up : Goes t here Path.parent here.dropLast [] [here] 0
  | enter {name node} : name ∉ [Path.inside, Path.here, Path.parent] → name.length ≤ maxName →
    t.node? (here ++ [name]) = some node → (∀ target, node ≠ .link target) →
    Goes t here name (t.opened (here ++ [name])) [] [here] 0
  | link {name target} : name ∉ [Path.inside, Path.here, Path.parent] → name.length ≤ maxName →
    t.node? (here ++ [name]) = some (.link target) →
    Goes t here name (if Path.isAbsolute target then [] else here) (Path.steps target) [here] 1

/-- The steps lead from one location to another. On the way some directories are
searched, and a number of links is crossed. -/
inductive Leads (t : FileTree) : Location → List FileName → List Location → Nat → Location → Prop
  | done {here} : (t.node? here).isSome → Leads t here [] [] 0 here
  | step {here name next first passed crossed rest searched links l} : t.isDirectoryAt here →
    Goes t here name next first passed crossed → Leads t next (first ++ rest) searched links l →
    Leads t here (name :: rest) (passed ++ searched) (crossed + links) l

variable {t : FileTree} {here next next' l l' : Location} {name : FileName}
  {names first first' front back : List FileName}
  {searched searched' passed passed' : List Location} {links links' crossed crossed' : Nat}

theorem Goes.unique (h : Goes t here name next first passed crossed)
    (h' : Goes t here name next' first' passed' crossed') : next' = next ∧ first' = first := by
  cases h with
  | inside => cases h' with
    | inside => exact ⟨rfl, rfl⟩
    | enter hn | link hn => simp at hn
  | stay => cases h' with
    | stay => exact ⟨rfl, rfl⟩
    | enter hn | link hn => simp at hn
  | up => cases h' with
    | up => exact ⟨rfl, rfl⟩
    | enter hn | link hn => simp at hn
  | enter hn _ hx hl => cases h' with
    | enter => exact ⟨rfl, rfl⟩
    | link _ _ hx' => exact absurd (Option.some.inj (hx.symm.trans hx')) (hl _)
    | inside | stay | up => simp at hn
  | link hn _ hx => cases h' with
    | enter _ _ hx' hl => exact absurd (Option.some.inj (hx'.symm.trans hx)) (hl _)
    | link _ _ hx' =>
      cases hx.symm.trans hx'
      exact ⟨rfl, rfl⟩
    | inside | stay | up => simp at hn

namespace Leads

theorem unique (h : Leads t here names searched links l)
    (h' : Leads t here names searched' links' l') : l' = l := by
  induction h generalizing searched' links' l' with
  | done =>
    cases h'
    rfl
  | step _ hg _ ih =>
    cases h' with
    | step _ hg' h' =>
      obtain ⟨rfl, rfl⟩ := hg.unique hg'
      exact ih h'

theorem isSome (h : Leads t here names searched links l) : (t.node? l).isSome := by
  induction h with
  | done hs => exact hs
  | step _ _ _ ih => exact ih

theorem isSome_start (h : Leads t here names searched links l) : (t.node? here).isSome := by
  cases h with
  | done hs => exact hs
  | step hd =>
    rw [of_decide_eq_true hd]
    rfl

/-- A way along two paths is a way along the first and then along the second. -/
theorem split (h : Leads t here (front ++ back) searched links l) :
    ∃ m searched₁ links₁ searched₂ links₂, Leads t here front searched₁ links₁ m ∧
      Leads t m back searched₂ links₂ l ∧ searched = searched₁ ++ searched₂ ∧
      links = links₁ + links₂ := by
  generalize hnames : front ++ back = names at h
  induction h generalizing front with
  | done hs =>
    obtain ⟨rfl, rfl⟩ := List.append_eq_nil_iff.mp hnames
    exact ⟨_, _, _, _, _, .done hs, .done hs, rfl, rfl⟩
  | step hd hg h ih =>
    rcases List.append_eq_cons_iff.mp hnames with ⟨rfl, rfl⟩ | ⟨front, rfl, rfl⟩
    · have hall := Leads.step hd hg h
      exact ⟨_, _, _, _, _, .done hall.isSome_start, hall, rfl, (Nat.zero_add _).symm⟩
    · -- the target of a link belongs to the first path
      obtain ⟨m, _, _, _, _, h₁, h₂, rfl, rfl⟩ := ih (List.append_assoc ..)
      exact ⟨m, _, _, _, _, .step hd hg h₁, h₂, (List.append_assoc ..).symm,
        (Nat.add_assoc ..).symm⟩

end Leads

-- ---------------------------------------------------------------------------
-- How far the host follows
-- ---------------------------------------------------------------------------

/-- The host goes this way: it crosses links up to a number, and each directory
that it searches lets it. -/
structure Passable (t : FileTree) (limit : Nat) (searched : List Location) (links : Nat) :
    Prop where
  links : links ≤ limit
  rights : ∀ d ∈ searched, t.denies .search d = false

theorem denies_of_not_bars (hb : ¬ t.bars here name = true) (hn : name ≠ Path.inside) :
    t.denies .search here = false := by
  simpa [bars, hn] using hb

theorem enters_iff : t.Enters here name ↔ t.isDirectoryAt here ∧
    name ∉ [Path.inside, Path.here, Path.parent] ∧ name.length ≤ maxName ∧
      t.denies .search here = false := by
  constructor
  · rintro ⟨hd, hb, hm, hp, hs⟩
    simp only [Bool.or_eq_true, decide_eq_true_eq, not_or] at hm
    exact ⟨by simpa using hd, by simp [hm, hp], Nat.not_lt.mp hs, denies_of_not_bars hb hm.1⟩
  · rintro ⟨hd, hn, hs, hr⟩
    simp only [List.mem_cons, List.not_mem_nil, or_false, not_or] at hn
    exact ⟨by simp [hd], by simp [bars, hr], by simp [hn.1, hn.2.1], hn.2.2, Nat.not_lt.mpr hs⟩

/-- One step of a walk, where the directory lets it and the links suffice. -/
theorem walk_of_goes {limit : Nat} {rest : List FileName} (hd : t.isDirectoryAt here)
    (hg : Goes t here name next first passed crossed)
    (hr : ∀ d ∈ passed, t.denies .search d = false) :
    t.walk .use (crossed + limit) here (name :: rest) = t.walk .use limit next (first ++ rest) := by
  have hd' : ¬(!t.isDirectoryAt here) = true := by simp [hd]
  cases hg with
  | inside =>
    rw [walk_of_stays hd' (by simp [bars]) (by simp), Nat.zero_add]
    rfl
  | stay =>
    rw [walk_of_stays hd' (by simp [bars, hr]) (by simp), Nat.zero_add]
    rfl
  | up =>
    rw [walk_of_parent hd' (by simp [bars, hr]), Nat.zero_add]
    rfl
  | @enter _ node hn hm hx hl =>
    rw [walk_of_enters (enters_iff.mpr ⟨hd, hn, hm, hr _ (.head _)⟩), hx, Nat.zero_add]
    cases node with
    | link target => exact absurd rfl (hl target)
    | directory | file | device | program => rfl
  | link hn hm hx =>
    rw [walk_of_enters (enters_iff.mpr ⟨hd, hn, hm, hr _ (.head _)⟩), hx, Nat.add_comm]

theorem walk_of_leads {limit : Nat} (h : Leads t here names searched links l)
    (hp : t.Passable limit searched links) : t.walk .use limit here names = .ok l := by
  induction h generalizing limit with
  | done => rw [walk]
  | step hd hg _ ih =>
    obtain ⟨limit, rfl⟩ := Nat.exists_eq_add_of_le (Nat.le_of_add_right_le hp.links)
    obtain ⟨hpassed, hrest⟩ := List.forall_mem_append.mp hp.rights
    rw [walk_of_goes hd hg hpassed]
    exact ih ⟨Nat.le_of_add_le_add_left hp.links, hrest⟩

/-- Before a way that is passable, one more step can be taken. -/
theorem exists_leads_cons {limit : Nat} {rest : List FileName} (hd : t.isDirectoryAt here)
    (hg : Goes t here name next first passed crossed)
    (hr : ∀ d ∈ passed, t.denies .search d = false)
    (h : ∃ searched links, Leads t next (first ++ rest) searched links l ∧
      t.Passable limit searched links) :
    ∃ searched links, Leads t here (name :: rest) searched links l ∧
      t.Passable (crossed + limit) searched links := by
  obtain ⟨searched, links, hl, hp⟩ := h
  exact ⟨_, _, .step hd hg hl, Nat.add_le_add_left hp.links _,
    List.forall_mem_append.mpr ⟨hr, hp.rights⟩⟩

theorem exists_leads_of_walk {limit : Nat} (h : t.walk .use limit here names = .ok l)
    (hs : (t.node? l).isSome) :
    ∃ searched links, Leads t here names searched links l ∧ t.Passable limit searched links := by
  fun_induction trail t limit here names with
  | case1 =>
    simp only [walk, Except.ok.injEq] at h
    subst h
    exact ⟨_, _, .done hs, Nat.zero_le _, by simp⟩
  | case2 links here name rest hd => simp [walk_of_not_directory hd] at h
  | case3 links here name rest hd hb => simp [walk_of_barred hd hb] at h
  | case4 links here name rest hd hb hn ih =>
    rw [walk_of_stays hd hb hn] at h
    have hd : t.isDirectoryAt here := by simpa using hd
    by_cases hi : name = Path.inside
    · subst hi
      simpa using exists_leads_cons hd .inside (by simp) (ih h)
    · have hr := denies_of_not_bars hb hi
      obtain rfl : name = Path.here := by simpa [hi] using hn
      simpa using exists_leads_cons hd .stay (by simp [hr]) (ih h)
  | case5 links here rest hd hb hm ih =>
    rw [walk_of_parent hd hb] at h
    have hd : t.isDirectoryAt here := by simpa using hd
    have hr := denies_of_not_bars hb (by decide)
    simpa using exists_leads_cons hd .up (by simp [hr]) (ih h)
  | case6 links here name rest hd hb hm hp hn => simp [walk_of_long hd hb hm hp hn] at h
  | case7 links here name rest hd hb hm hp hn hx =>
    rw [walk_of_enters ⟨hd, hb, hm, hp, hn⟩, hx] at h
    cases rest with
    | nil =>
      cases h
      simp [hx] at hs
    | cons => cases h
  | case8 here name rest hd hb hm hp hn target hx =>
    rw [walk_of_enters ⟨hd, hb, hm, hp, hn⟩, hx] at h
    cases h
  | case9 here name rest hd hb hm hp hn target hx links start ih =>
    rw [walk_of_enters ⟨hd, hb, hm, hp, hn⟩, hx] at h
    obtain ⟨hd, hn, hm, hr⟩ := enters_iff.mp ⟨hd, hb, hm, hp, hn⟩
    rw [Nat.succ_eq_one_add]
    exact exists_leads_cons hd (.link hn hm hx) (by simp [hr]) (ih h)
  | case10 links here name rest hd hb hm hp hn node hl hx ih =>
    rw [walk_of_enters ⟨hd, hb, hm, hp, hn⟩] at h
    simp only [hx] at h
    obtain ⟨hd, hn, hm, hr⟩ := enters_iff.mp ⟨hd, hb, hm, hp, hn⟩
    simpa using exists_leads_cons hd (.enter hn hm hx hl) (by simp [hr]) (ih h)

/-- The host follows a path to something that is there just when this is where it
leads, and the way is passable. -/
theorem walk_eq_ok_iff {limit : Nat} :
    t.walk .use limit here names = .ok l ∧ (t.node? l).isSome ↔
      ∃ searched links, Leads t here names searched links l ∧ t.Passable limit searched links :=
  ⟨fun ⟨h, hs⟩ => exists_leads_of_walk h hs, fun ⟨_, _, h, hp⟩ => ⟨walk_of_leads h hp, h.isSome⟩⟩

end FileTree

-- ---------------------------------------------------------------------------
-- The path of an entry
-- ---------------------------------------------------------------------------

namespace Path

variable {name directory : String}

theorem pieces_ne_nil (bytes : List UInt8) : pieces bytes ≠ [] := by
  fun_cases pieces bytes <;> simp

theorem pieces_append_slash (a b : List UInt8) :
    pieces (a ++ slash :: b) = pieces a ++ pieces b := by
  induction a with
  | nil => simp [pieces]
  | cons c a ih =>
    cases hp : pieces a with
    | nil => exact absurd hp (pieces_ne_nil a)
    | cons piece rest =>
      rw [List.cons_append, pieces, ih, pieces, hp]
      split <;> rfl

theorem pieces_of_not_mem {a : List UInt8} (h : slash ∉ a) : pieces a = [a] := by
  induction a with
  | nil => rfl
  | cons b a ih =>
    obtain ⟨hb, ha⟩ := not_or.mp (mt List.mem_cons.mpr h)
    rw [pieces, if_neg (Ne.symm hb), ih ha]

theorem names_append_slash (a b : List UInt8) : names (a ++ slash :: b) = names a ++ names b := by
  rw [names, pieces_append_slash, List.filter_append]
  rfl

/-- A slash at the end of a directory is the one that joins a name to it. -/
theorem join_eq (hd : directory ≠ "") (name : String) : ∃ front,
    (directory = front ∨ directory = front ++ "/") ∧ join directory name = front ++ "/" ++ name := by
  unfold join
  split
  case isTrue h => exact absurd (String.isEmpty_iff.mp h) hd
  case isFalse =>
    split
    case isFalse => exact ⟨directory, .inl rfl, rfl⟩
    case isTrue hslash =>
      obtain ⟨front, hfront⟩ := List.getLast?_eq_some_iff.mp hslash
      have heq : directory = String.ofList front ++ "/" := by
        rw [← String.toList_inj, hfront]
        simp
      exact ⟨_, .inr heq, congrArg (· ++ name) heq⟩

theorem encode_slash : Text.Utf8.encode "/" = [slash] := by
  decide +kernel

theorem names_of_not_mem {a : List UInt8} (h : slash ∉ a) (hne : a ≠ []) : names a = [a] := by
  simp [names, pieces_of_not_mem h, hne]

theorem encode_join (hd : directory ≠ "") (name : String) : ∃ front : List UInt8,
    (Text.Utf8.encode directory = front ∨ Text.Utf8.encode directory = front ++ [slash]) ∧
      Text.Utf8.encode (join directory name) = front ++ slash :: Text.Utf8.encode name := by
  obtain ⟨front, hfront, hj⟩ := join_eq hd name
  refine ⟨Text.Utf8.encode front, hfront.imp (congrArg _) fun h => ?_, ?_⟩
  · rw [h, Text.Utf8.encode_append, encode_slash]
  · simp [hj, Text.Utf8.encode_append, encode_slash]

/-- The steps to an entry are those to its directory, and its name. -/
theorem steps_join (hd : directory ≠ "") (hn : slash ∉ Text.Utf8.encode name)
    (hne : Text.Utf8.encode name ≠ []) :
    steps (Text.Utf8.encode (join directory name)) =
      names (Text.Utf8.encode directory) ++ [Text.Utf8.encode name] := by
  obtain ⟨front, hfront, hj⟩ := encode_join hd name
  have hlast : (front ++ slash :: Text.Utf8.encode name).getLast? ≠ some slash := by
    rw [List.getLast?_append_cons, List.getLast?_cons_of_ne_nil hne]
    exact fun h => hn (List.mem_of_getLast? h)
  have hnames : names (Text.Utf8.encode directory) = names front := by
    rcases hfront with h | h
    · rw [h]
    · rw [h, names_append_slash]
      exact List.append_nil _
  rw [hj, steps, if_neg hlast, names_append_slash, names_of_not_mem hn hne, hnames]

theorem isAbsolute_join (hd : directory ≠ "") :
    isAbsolute (Text.Utf8.encode (join directory name)) =
      isAbsolute (Text.Utf8.encode directory) := by
  obtain ⟨front, hfront, hj⟩ := encode_join hd name
  have hne := mt Text.Utf8.encode_eq_nil_iff.mp hd
  rw [hj, isAbsolute, isAbsolute]
  cases front with
  | nil =>
    rcases hfront with h | h
    · exact absurd h hne
    · rw [h]
      rfl
  | cons => rcases hfront with h | h <;> simp [h]

end Path

-- ---------------------------------------------------------------------------
-- Directories and their entries
-- ---------------------------------------------------------------------------

namespace FileTree

variable {t : FileTree} {directory name path : String} {d l : Location}

/-- An entry of a directory is a directory, or a link that leads to one, over
whatever number of links. -/
def IsOrLinksToDirectory (t : FileTree) (d : Location) (name : String) : Prop :=
  ∃ searched links l, Leads t d [Text.Utf8.encode name] searched links l ∧ t.isDirectoryAt l

/-- The host follows a path to a location: the path is one that can be given, it
leads there, over not too many links in all, and each directory on the way may
be searched. -/
def FollowedTo (t : FileTree) (path : String) (l : Location) : Prop :=
  let bytes := Text.Utf8.encode path
  0 ∉ bytes ∧ bytes ≠ [] ∧ bytes.length < maxPath ∧ ∃ searched links,
    Leads t (t.startOf bytes) (Path.steps bytes) searched links l ∧
      t.Passable maxLinks searched links

def Followable (t : FileTree) (path : String) : Prop :=
  ∃ l, t.FollowedTo path l

/-- Something has this name in a directory. -/
def IsEntry (t : FileTree) (d : Location) (name : FileName) : Prop :=
  isName name ∧ (t.node? (d ++ [name])).isSome

/-- The host follows a path to a directory, which may be read. -/
structure Listable (t : FileTree) (path : String) (d : Location) : Prop where
  followed : t.FollowedTo path d
  directory : t.isDirectoryAt d
  readable : t.denies .read d = false

theorem followedTo_iff : t.FollowedTo path l ↔
    t.locate .use path = .ok l ∧ (t.node? l).isSome := by
  rw [FollowedTo, ← walk_eq_ok_iff, locate_eq_ok_iff]
  simp only [and_assoc]

theorem FollowedTo.unique {l' : Location} (h : t.FollowedTo path l) (h' : t.FollowedTo path l') :
    l' = l := by
  obtain ⟨hl, -⟩ := followedTo_iff.mp h
  obtain ⟨hl', -⟩ := followedTo_iff.mp h'
  exact Except.ok.inj (hl'.symm.trans hl)

theorem find_eq_directory_iff : t.find path = .ok (l, .directory) ↔
    t.FollowedTo path l ∧ t.isDirectoryAt l := by
  rw [find_eq_ok_iff, followedTo_iff, isDirectoryAt, decide_eq_true_eq, and_assoc]
  exact and_congr_right fun _ => ⟨fun h => ⟨by simp [h], h⟩, And.right⟩

theorem node?_concat (name : FileName) :
    t.node? (d ++ [name]) = t.entries.lookup (d ++ [name]) := by
  cases d <;> rfl

theorem nameBelow_eq_some_iff {name : FileName} :
    (if l.dropLast = d && !l.isEmpty then l.getLast? else none) = some name ↔ l = d ++ [name] := by
  constructor
  · intro h
    obtain ⟨hd, hl⟩ := Option.ite_none_right_eq_some.mp h
    obtain ⟨front, rfl⟩ := List.getLast?_eq_some_iff.mp hl
    simp_all
  · rintro rfl
    simp

theorem mem_childrenAt {name : FileName} : name ∈ t.childrenAt d ↔ t.IsEntry d name := by
  rw [childrenAt, List.mem_filter, List.mem_filterMap, IsEntry, node?_concat,
    Option.isSome_iff_ne_none, ne_eq, List.lookup_eq_none_iff, and_comm]
  simp only [nameBelow_eq_some_iff, bne_iff_ne, ne_eq, not_forall, not_not, exists_prop]
  exact and_congr_right fun _ => exists_congr fun e => and_congr_right fun _ => eq_comm

theorem list_eq_ok_iff {names : List FileName} :
    t.list path = .ok names ↔ ∃ d, t.Listable path d ∧ names = t.childrenAt d := by
  have hlist : t.list path = .ok names ↔ ∃ d, t.find path = .ok (d, .directory) ∧
      t.denies .read d = false ∧ names = t.childrenAt d := by
    unfold list
    cases hf : t.find path with
    | error f => simp [bind, Except.bind]
    | ok found =>
      obtain ⟨d, n⟩ := found
      cases n with
      | directory =>
        have hnames : t.childrenAt d = names ↔ names = t.childrenAt d := eq_comm
        by_cases hr : t.denies .read d <;> simp [bind, Except.bind, hr, hnames]
      | file | link | device | program => simp [bind, Except.bind]
  rw [hlist]
  refine exists_congr fun d => ?_
  rw [find_eq_directory_iff]
  exact ⟨fun ⟨⟨hf, hd⟩, hr, hn⟩ => ⟨⟨hf, hd, hr⟩, hn⟩,
    fun ⟨⟨hf, hd, hr⟩, hn⟩ => ⟨⟨hf, hd⟩, hr, hn⟩⟩

theorem isDirectory_iff : t.isDirectory path ↔ ∃ l, t.find path = .ok (l, .directory) := by
  unfold isDirectory
  cases hf : t.find path with
  | error f => simp
  | ok found =>
    obtain ⟨l, n⟩ := found
    cases n <;> simp

theorem Leads.names {here : Location} {bytes : List UInt8} {searched : List Location} {links : Nat}
    (h : Leads t here (Path.steps bytes) searched links l) :
    Leads t here (Path.names bytes) searched links l := by
  rw [Path.steps] at h
  split at h
  case isFalse => exact h
  case isTrue =>
    obtain ⟨m, _, _, _, _, h₁, h₂, rfl, rfl⟩ := h.split
    cases h₂ with
    | step _ hg h₂ =>
      cases hg with
      | inside =>
        cases h₂
        simpa using h₁
      | enter hn | link hn => simp at hn

theorem not_mem_of_isName {name : FileName} (hn : isName name) :
    name ≠ [] ∧ Path.slash ∉ name := by
  simp_all [isName, Path.inside]

section Entry

variable (hd : t.FollowedTo directory d) (hn : isName (Text.Utf8.encode name))

include hd hn in
/-- The path of an entry leads through its directory. -/
theorem leads_entry (h : t.FollowedTo (Path.join directory name) l) :
    ∃ searched links, Leads t d [Text.Utf8.encode name] searched links l := by
  obtain ⟨-, -, -, _, _, h, -⟩ := h
  obtain ⟨-, hbytes, -, _, _, hdirectory, -⟩ := hd
  have hne := mt Text.Utf8.encode_eq_nil_iff.mpr hbytes
  obtain ⟨hname, hslash⟩ := not_mem_of_isName hn
  have hstart : t.startOf (Text.Utf8.encode (Path.join directory name)) =
      t.startOf (Text.Utf8.encode directory) := by
    rw [startOf, startOf, Path.isAbsolute_join hne]
  rw [hstart, Path.steps_join hne hslash hname] at h
  obtain ⟨m, _, _, _, _, hfront, hback, -⟩ := h.split
  rw [hdirectory.names.unique hfront] at hback
  exact ⟨_, _, hback⟩

include hd hn in
/-- An entry is found to be a directory under its path if it is one or links to
one, and the path can be followed. -/
theorem isDirectory_join_iff : t.isDirectory (Path.join directory name) ↔
    t.IsOrLinksToDirectory d name ∧ t.Followable (Path.join directory name) := by
  rw [isDirectory_iff]
  constructor
  · rintro ⟨l, hf⟩
    obtain ⟨hfollowed, hx⟩ := find_eq_directory_iff.mp hf
    obtain ⟨_, _, hentry⟩ := leads_entry hd hn hfollowed
    exact ⟨⟨_, _, l, hentry, hx⟩, l, hfollowed⟩
  · rintro ⟨⟨_, _, l, hentry, hx⟩, l', hfollowed⟩
    obtain ⟨_, _, hentry'⟩ := leads_entry hd hn hfollowed
    rw [hentry.unique hentry'] at hfollowed
    exact ⟨l, find_eq_directory_iff.mpr ⟨hfollowed, hx⟩⟩

end Entry

end FileTree

end SecretAccess.Host
