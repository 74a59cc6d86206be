import SecretAccess.Proofs.CommandLine.Given

/-!
# Command lines in any order

What is given to a request can be written in several ways, and the pieces can
stand in any order: they are read as the same request (`parse_any_order`). A
piece whose option was given before is a repetition wherever it stands, because
a value that still waits is looked at before anything else comes.
-/

namespace SecretAccess.CommandLine

open Request (give)

/-- How an option stands without a value. -/
inductive Named (o : Opt) : String → Prop
  | long : Named o ("--" ++ o.long)
  | letter {c} : o.short? = some c → Named o ("-" ++ c.toString)

/-- How an option and its value stand in one argument. -/
inductive Attached (o : Opt) (value : String) : String → Prop
  | long : Attached o value ("--" ++ o.long ++ "=" ++ value)
  | letter {c} : o.short? = some c → Attached o value ("-" ++ c.toString ++ "=" ++ value)
  | joined {c} : o.short? = some c → value ≠ "" → value.toList.head? ≠ some '=' →
    Attached o value ("-" ++ c.toString ++ value)

/-- The arguments that an item is written as. -/
inductive Spelled : Item → List String → Prop
  | flag {o arg} : Named o arg → Spelled (o, none) [arg]
  | attached {o value arg} : Attached o value arg → Spelled (o, some value) [arg]
  | separate {o value arg} : Named o arg → value.toList.head? ≠ some '-' →
    Spelled (o, some value) [arg, value]

-- ---------------------------------------------------------------------------
-- One argument
-- ---------------------------------------------------------------------------

section
variable {p : Progress} {o : Opt} {c : Char} {value arg : String}

theorem long_ne_nil (o : Opt) : o.long.toList ≠ [] := by cases o <;> decide

theorem equals_notMem_long (o : Opt) : '=' ∉ o.long.toList := by cases o <;> decide

theorem long?_long (o : Opt) : Level.program.long? o.long = some o := by cases o <;> decide

theorem letter?_short (h : o.short? = some c) : Level.program.letter? c = some o ∧ c ≠ '-' := by
  cases o <;> simp [Opt.short?] at h <;> subst h <;> decide

theorem splitValue_long (o : Opt) : Progress.splitValue o.long.toList = (o.long, none) := by
  have h : ∀ c ∈ o.long.toList, (decide (c ≠ '=')) = true := fun c hc =>
    decide_eq_true fun he => equals_notMem_long o (he ▸ hc)
  rw [Progress.splitValue, List.takeWhile_eq_self_iff.mpr h, List.dropWhile_eq_nil_iff.mpr h]
  simp

theorem splitValue_attached (o : Opt) (value : String) :
    Progress.splitValue (o.long.toList ++ '=' :: value.toList) = (o.long, some value) := by
  have h : ∀ c ∈ o.long.toList, (decide (c ≠ '=')) = true := fun c hc =>
    decide_eq_true fun he => equals_notMem_long o (he ▸ hc)
  rw [Progress.splitValue, List.takeWhile_append_of_pos h, List.dropWhile_append_of_pos h]
  simp

theorem argument_named (hp : p.plain = false) (h : Named o arg) : p.argument .program arg =
    if o.takesValue then p.expectValue o else p.raise .program o := by
  cases h with
  | long =>
    obtain ⟨c, cs, hl⟩ := List.exists_cons_of_ne_nil (long_ne_nil o)
    have hs := splitValue_long o
    rw [hl] at hs
    simp [Progress.argument, hp, hl, hs, Progress.longOption, long?_long]
  | @letter c hc =>
    obtain ⟨hl, hd⟩ := letter?_short hc
    have hletters : p.letters .program [c] =
        if o.takesValue then p.expectValue o else p.raise .program o := by
      simp only [Progress.letters, hl]
      cases p.raise .program o <;> rfl
    simp [Progress.argument, hp, hd, hletters]

theorem argument_attached (hp : p.plain = false) (ho : o.takesValue) (h : Attached o value arg) :
    p.argument .program arg = p.attach o value := by
  cases h with
  | long =>
    obtain ⟨c, cs, hl⟩ := List.exists_cons_of_ne_nil (long_ne_nil o)
    have hs := splitValue_attached o value
    rw [hl, List.cons_append] at hs
    simp [Progress.argument, hp, hl, hs, Progress.longOption, long?_long, ho]
  | @letter c hc =>
    obtain ⟨hl, hd⟩ := letter?_short hc
    simp [Progress.argument, hp, Progress.letters, hl, ho]
  | @joined c hc hv he =>
    obtain ⟨hl, hd⟩ := letter?_short hc
    obtain ⟨d, ds, hds⟩ := List.exists_cons_of_ne_nil (mt String.toList_eq_nil_iff.mp hv)
    have hd' : d ≠ '=' := by simpa [hds] using he
    have hvalue : String.ofList (d :: ds) = value := by rw [← hds, String.ofList_toList]
    simp [Progress.argument, hp, hds, Progress.letters, hl, ho, hd', hvalue]

theorem argument_awaited (hp : p.plain = false) (ha : p.awaits = some o)
    (hv : value.toList.head? ≠ some '-') :
    p.argument .program value = .ok { p with pending := some (.option o (some value)) } := by
  cases hl : value.toList with
  | nil => simp [Progress.argument, hp, hl, ha]
  | cons d ds =>
    have hd : d ≠ '-' := by simpa [hl] using hv
    simp [Progress.argument, hp, hl, ha, hd]

theorem Named.head (h : Named o arg) : arg.toList.head? = some '-' := by
  cases h <;> simp

theorem Attached.head (h : Attached o value arg) : arg.toList.head? = some '-' := by
  cases h <;> simp

/-- What begins with a hyphen does not ask for help and is no subcommand. -/
theorem programArguments_option (h : arg.toList.head? = some '-') (args : List String) :
    programArguments p (arg :: args) =
      p.argument .program arg >>= fun p => programArguments p args := by
  have hhelp : arg ≠ "help" := fun he => by simp [he] at h
  have hcompletions : arg ≠ "completions" := fun he => by simp [he] at h
  simp [programArguments, hhelp, hcompletions]

/-- An argument that is awaited is a value, whatever it says. -/
theorem programArguments_awaited (hp : p.plain = false) (ha : p.awaits = some o)
    (hv : value.toList.head? ≠ some '-') (args : List String) :
    programArguments p (value :: args) =
      programArguments { p with pending := some (.option o (some value)) } args := by
  rw [programArguments]
  simp [ha, argument_awaited hp ha hv, bind, Except.bind]

end

-- ---------------------------------------------------------------------------
-- One piece
-- ---------------------------------------------------------------------------

section
variable {p q : Progress} {i : Item} {is : List Item} {pieces : List (List String)} {r : Request}

/-- The next argument is not taken for anything but what it is. -/
structure Receptive (p : Progress) : Prop where
  plain : p.plain = false
  awaits : p.awaits = none

/-- A request, and nothing that waits. -/
def Progress.settled (r : Request) : Progress := ⟨r, none, false⟩

theorem receptive_settled (r : Request) : Receptive (.settled r) := ⟨rfl, rfl⟩

theorem receptive_pending (r : Request) (o : Opt) (value : String) :
    Receptive ⟨r, some (.option o (some value)), false⟩ := ⟨rfl, rfl⟩

theorem settle_eq_ok (hp : Receptive p) (h : p.settle = .ok q) : q = .settled q.request := by
  obtain ⟨request, pending, plain⟩ := p
  obtain ⟨rfl, ha⟩ := hp
  match pending with
  | none => cases h; rfl
  | some (.option o none) => cases ha
  | some (.option o (some value)) =>
    simp only [Progress.settle] at h
    cases hr : lift (request.setValue o value) with
    | error e => rw [hr] at h; cases h
    | ok r => rw [hr] at h; cases h; rfl
  | some (.shell text) =>
    simp only [Progress.settle] at h
    split at h
    · cases h; rfl
    · cases h

/-- Looking at a value that waits comes to giving it. -/
theorem settle_pending (r : Request) (o : Opt) (value : String) :
    Progress.settle ⟨r, some (.option o (some value)), false⟩ =
      lift (give r (o, some value)) >>= fun r => .ok (.settled r) := rfl

theorem attach_eq (hp : Receptive p) (o : Opt) (value : String) : p.attach o value =
    p.settle >>= fun q => lift (give q.request (o, some value)) >>= fun r => .ok (.settled r) := by
  rw [Progress.attach]
  cases h : p.settle with
  | error e => rfl
  | ok q => rw [settle_eq_ok hp h]; rfl

theorem expectValue_eq (hp : Receptive p) (o : Opt) : p.expectValue o =
    p.settle >>= fun q => .ok ⟨q.request, some (.option o none), false⟩ := by
  rw [Progress.expectValue]
  cases h : p.settle with
  | error e => rfl
  | ok q => rw [settle_eq_ok hp h]; rfl

theorem raise_eq (hp : Receptive p) {o : Opt} (hh : o ≠ .help) (hv : o ≠ .version) :
    p.raise .program o =
      p.settle >>= fun q => lift (give q.request (o, none)) >>= fun r => .ok (.settled r) := by
  rw [Progress.raise]
  cases h : p.settle with
  | error e => rfl
  | ok q =>
    rw [settle_eq_ok hp h]
    cases o <;> first | rfl | contradiction

/-- A piece of one argument is given at once, behind what waits. -/
theorem programArguments_flag (hp : Receptive p) {o : Opt} (hi : Fits (o, none))
    {arg : String} (hn : Named o arg) (args : List String) :
    programArguments p (arg :: args) = p.settle >>= fun q =>
      lift (give q.request (o, none)) >>= fun r => programArguments (.settled r) args := by
  rw [programArguments_option hn.head, argument_named hp.plain hn,
    if_neg (by simp [← hi.value]), raise_eq hp hi.notHelp hi.notVersion]
  simp only [bind_assoc]
  rfl

theorem programArguments_attached (hp : Receptive p) {o : Opt} {value : String}
    (hi : Fits (o, some value)) {arg : String} (ha : Attached o value arg)
    (args : List String) :
    programArguments p (arg :: args) = p.settle >>= fun q =>
      lift (give q.request (o, some value)) >>= fun r => programArguments (.settled r) args := by
  rw [programArguments_option ha.head, argument_attached hp.plain hi.value.symm ha, attach_eq hp]
  simp only [bind_assoc]
  rfl

theorem programArguments_separate (hp : Receptive p) {o : Opt} {value : String}
    (hi : Fits (o, some value)) {arg : String} (hn : Named o arg)
    (hv : value.toList.head? ≠ some '-') (args : List String) :
    programArguments p (arg :: value :: args) = p.settle >>= fun q =>
      programArguments ⟨q.request, some (.option o (some value)), false⟩ args := by
  have ht : o.takesValue = true := hi.value.symm
  rw [programArguments_option hn.head, argument_named hp.plain hn, if_pos ht, expectValue_eq hp,
    bind_assoc]
  exact congrArg _ (funext fun q =>
    programArguments_awaited (p := ⟨q.request, some (.option o none), false⟩) rfl rfl hv args)

theorem lift_bind {α β : Type} (x : Except UsageError α) (f : α → Except UsageError β) :
    lift (x >>= f) = lift x >>= fun a => lift (f a) := by
  cases x <;> rfl

/-- What follows the arguments of a line, once it looks at what waits, goes on
with the request that all items were given to. -/
theorem programArguments_flatten {β : Type} {k : Progress × Option (List String) → Except Stop β}
    {f : Request → Except Stop β} (hk : ∀ p, k (p, none) = p.settle >>= fun q => f q.request)
    (hi : ∀ i ∈ is, Fits i) (hs : List.Forall₂ Spelled is pieces) (hp : Receptive p) :
    programArguments p pieces.flatten >>= k =
      p.settle >>= fun q => lift (is.foldlM give q.request) >>= f := by
  induction hs generalizing p with
  | nil => exact hk p
  | @cons i piece is pieces hs _ ih =>
    have hfits := hi i (by simp)
    have ih : ∀ {p}, Receptive p → programArguments p pieces.flatten >>= k = _ :=
      fun hp => ih (fun j hj => hi j (by simp [hj])) hp
    simp only [List.foldlM_cons, lift_bind, bind_assoc, List.flatten_cons]
    -- the items behind this one are given to what it leads to
    cases hs with
    | flag hn =>
      rw [List.singleton_append, programArguments_flag hp hfits hn]
      simp only [bind_assoc, ih (receptive_settled _)]
      rfl
    | attached ha =>
      rw [List.singleton_append, programArguments_attached hp hfits ha]
      simp only [bind_assoc, ih (receptive_settled _)]
      rfl
    | separate hn hv =>
      rw [List.cons_append, List.singleton_append, programArguments_separate hp hfits hn hv]
      simp only [bind_assoc, ih (receptive_pending _ _ _), settle_pending]
      rfl

theorem parse_flatten (hi : ∀ i ∈ is, Fits i) (hs : List.Forall₂ Spelled is pieces) :
    parse none pieces.flatten = lift (is.foldlM give .empty) := by
  have hk : ∀ p : Progress, (do
      let p ← p.settle
      p.checkRoot none
      .ok { p.request with root := p.request.root.or none } : Except Stop Request) =
        p.settle >>= fun q => .ok q.request := by
    intro p
    cases p.settle with
    | error e => rfl
    | ok q => simp [Progress.checkRoot, bind, Except.bind]
  refine (programArguments_flatten hk hi hs (receptive_settled .empty)).trans ?_
  change lift (is.foldlM give .empty) >>= Except.ok = _
  cases is.foldlM give .empty <;> rfl

-- ---------------------------------------------------------------------------
-- Whole lines
-- ---------------------------------------------------------------------------

theorem exists_first_repeated {os : List Opt} (h : ¬ os.Nodup) :
    ∃ front o back, os = front ++ o :: back ∧ front.Nodup ∧ o ∈ front := by
  induction os using List.reverseRecOn with
  | nil => simp at h
  | append_singleton os o ih =>
    by_cases hn : os.Nodup
    · refine ⟨os, o, [], rfl, hn, Decidable.byContradiction fun ho => h ?_⟩
      refine List.nodup_append.mpr ⟨hn, List.nodup_singleton o, fun a ha b hb hab => ho ?_⟩
      rwa [← List.mem_singleton.mp hb, ← hab]
    · obtain ⟨front, o', back, rfl, hf, ho'⟩ := ih hn
      exact ⟨front, o', back ++ [o], by simp, hf, ho'⟩

/-- A request whose paths are not empty is read from the pieces of all that it
says, in whatever order they stand and however each is spelled. A line on which
an option is given twice is refused for the first option that is, whatever its
second value, as long as the values before it are admissible. -/
theorem parse_any_order :
    (∀ (r : Request) (is : List Item) (pieces : List (List String)), r.shell = none →
      r.root ≠ some "" → r.config ≠ some "" → is.Perm r.items →
      List.Forall₂ Spelled is pieces → parse none pieces.flatten = .ok r) ∧
    ∀ (is : List Item) (pieces : List (List String)), (∀ i ∈ is, Fits i) →
      List.Forall₂ Spelled is pieces → ¬ (is.map Prod.fst).Nodup →
      ∃ front i back, is = front ++ i :: back ∧ (front.map Prod.fst).Nodup ∧
        i.1 ∈ front.map Prod.fst ∧ ((∀ j ∈ front, Admissible j) →
          parse none pieces.flatten = .error (.usage (.repeated i.1))) := by
  constructor
  · intro r is pieces hshell hr hc hp hs
    have hi : ∀ i ∈ is, Admissible i := fun i hi =>
      Request.admissible_of_mem_items hr hc (hp.mem_iff.mp hi)
    rw [parse_flatten (fun i h => (hi i h).fits) hs, Request.foldlM_give_items hshell hr hc hp]
    rfl
  · intro is pieces hi hs hn
    obtain ⟨front, o, back, heq, hfront, ho⟩ := exists_first_repeated hn
    obtain ⟨isFront, isRest, rfl, rfl, hrest⟩ := List.map_eq_append_iff.mp heq
    obtain ⟨i, isBack, rfl, rfl, rfl⟩ := List.map_eq_cons_iff.mp hrest
    refine ⟨isFront, i, isBack, rfl, hfront, ho, fun hadm => ?_⟩
    rw [parse_flatten hi hs, Request.foldlM_give_repeated hadm (hi i (by simp)) hfront ho]
    rfl

-- ---------------------------------------------------------------------------
-- Values that look like something else
-- ---------------------------------------------------------------------------

/-- The values of this request are the names of the subcommand and of options,
or hold equals signs and blanks. -/
def misleading : Request :=
  { Request.empty with
    root := some "completions", config := some "--json", graphFormat := some .dot,
    graphOutput := some "=a --all", noSummary := true, verbose := true }

def misleadingItems : List Item :=
  [(.graphOutput, some "=a --all"), (.verbose, none), (.root, some "completions"),
    (.config, some "--json"), (.noSummary, none), (.graphFormat, some "dot")]

def misleadingPieces : List (List String) :=
  [["--graph-output==a --all"], ["-v"], ["--root", "completions"], ["--config=--json"],
    ["--no-summary"], ["--graph-format", "dot"]]

theorem misleading_read_in_any_order :
    misleading.shell = none ∧ misleading.root ≠ some "" ∧ misleading.config ≠ some "" ∧
      misleadingItems.Perm misleading.items ∧
      List.Forall₂ Spelled misleadingItems misleadingPieces ∧
      parse none misleadingPieces.flatten = .ok misleading ∧
      ∃ o, parse none (misleadingPieces ++ [["-c", "again"]]).flatten =
        .error (.usage (.repeated o)) := by
  have hperm : misleadingItems.Perm misleading.items := by decide
  have hspelled : List.Forall₂ Spelled misleadingItems misleadingPieces :=
    .cons (.attached .long) <| .cons (.flag (.letter (c := 'v') rfl)) <|
      .cons (.separate .long (by decide)) <| .cons (.attached .long) <|
      .cons (.flag .long) <| .cons (.separate .long (by decide)) .nil
  refine ⟨rfl, by decide, by decide, hperm, hspelled,
    parse_any_order.1 misleading misleadingItems misleadingPieces rfl (by decide) (by decide)
      hperm hspelled, ?_⟩
  have hadm : ∀ i ∈ misleadingItems ++ [(.config, some "again")], Admissible i := by
    intro i hi
    rcases List.mem_append.mp hi with hi | hi
    · exact Request.admissible_of_mem_items (by decide) (by decide) (hperm.mem_iff.mp hi)
    · exact List.mem_singleton.mp hi ▸ .path (by simp) (by decide)
  obtain ⟨front, i, back, heq, -, -, h⟩ := parse_any_order.2
    (misleadingItems ++ [(.config, some "again")]) (misleadingPieces ++ [["-c", "again"]])
    (fun i hi => (hadm i hi).fits)
    (List.rel_append hspelled (.cons (.separate (.letter (c := 'c') rfl) (by decide)) .nil)) (by decide)
  exact ⟨i.1, h fun j hj => hadm j (by rw [heq]; simp [hj])⟩

end

end SecretAccess.CommandLine
