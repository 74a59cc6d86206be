import Mathlib.Algebra.BigOperators.Group.List.Basic
import Mathlib.Algebra.Ring.Nat
import SecretAccess.Proofs.Styling
import SecretAccess.Text.Columns

/-!
# Measuring text

The columns of a text are those of its characters, unless some of these are
drawn together. Nothing is drawn together across a space, so what is joined
with spaces takes the columns of its parts, and no text takes less than none
(`measure_append`, `measure_nonneg`).
-/

namespace SecretAccess.Text

/-- The columns of a character that stands by itself. -/
def charColumns (c : Char) : Nat := Columns.ofChars [c]

def sumColumns (cs : List Char) : Nat := (cs.map charColumns).sum

@[simp] theorem sumColumns_nil : sumColumns [] = 0 := rfl

@[simp] theorem sumColumns_cons (c : Char) (cs : List Char) :
    sumColumns (c :: cs) = charColumns c + sumColumns cs := rfl

@[simp] theorem sumColumns_append (cs ds : List Char) :
    sumColumns (cs ++ ds) = sumColumns cs + sumColumns ds := by
  simp [sumColumns]

@[simp] theorem sumColumns_replicate (n : Nat) (c : Char) :
    sumColumns (List.replicate n c) = n * charColumns c := by
  rw [sumColumns, List.map_replicate, List.sum_replicate_nat]

@[simp] theorem charColumns_space : charColumns ' ' = 1 := by decide

namespace Columns

open Neighbour

variable {c : Char} {cs ds : List Char}

theorem measure_cons (c : Char) (cs : List Char) :
    measure (c :: cs) =
      ((measure cs).1 + (step c (measure cs).2).1, (step c (measure cs).2).2) := rfl

/-- What is measured from behind begins anew where nothing waits to be drawn
together with what stands in front. -/
theorem measure_append (cs : List Char) (h : (measure ds).2 = .plain) :
    measure (cs ++ ds) = ((measure cs).1 + (measure ds).1, (measure cs).2) := by
  induction cs with
  | nil => exact Prod.ext (Int.zero_add _).symm h
  | cons c cs ih =>
    rw [List.cons_append, measure_cons, measure_cons, ih]
    exact Prod.ext (Int.add_right_comm _ _ _) rfl

-- ---------------------------------------------------------------------------
-- Spaces
-- ---------------------------------------------------------------------------

theorem taken?_space (next : Following) : taken? ' ' next = none := by
  have hp : takesPictureSelector ' ' = false := by decide
  have ht : takesTextSelector ' ' = false := by decide
  have hq : isCurlyQuote ' ' = false := by decide
  unfold taken?
  split <;> simp [hp, ht, hq]

/-- A space is drawn by itself, whatever follows. -/
theorem step_space (next : Following) : step ' ' next = (1, .plain) := by
  rw [step, taken?_space]
  rfl

theorem measure_space (cs : List Char) :
    measure (' ' :: cs) = ((measure cs).1 + 1, .plain) := by
  rw [measure_cons, step_space]

theorem measure_spaces (n : Nat) (cs : List Char) :
    measure (List.replicate (n + 1) ' ' ++ cs) = ((measure cs).1 + (n + 1), .plain) := by
  induction n with
  | zero => exact measure_space cs
  | succ n ih =>
    rw [List.replicate_succ, List.cons_append, measure_space, ih]
    exact Prod.ext (by push_cast; omega) rfl

-- ---------------------------------------------------------------------------
-- No text takes less than no column
-- ---------------------------------------------------------------------------

/-- The columns that a character in front can take back. -/
def owed : Neighbour → Int
  | coengLetter | tifinaghJoiner | joinedFlagLetter | joinedFlagOdd => 1
  | _ => 0

theorem owed_nonneg (n : Neighbour) : 0 ≤ owed n := by
  cases n <;> simp [owed]

/-- Enough columns are counted for what can still be taken back. -/
def Covers (counted : Int) (next : Following) : Prop := owed next.neighbour ≤ counted

instance (counted : Int) (next : Following) : Decidable (Covers counted next) :=
  inferInstanceAs (Decidable (_ ≤ _))

theorem Covers.nonneg {n : Int} {next : Following} (h : Covers n next) : 0 ≤ n :=
  Int.le_trans (owed_nonneg _) h

theorem Covers.select {n : Int} {next : Following} (h : Covers n next) (s : Selector) :
    Covers n (next.select s) := by
  cases s
  all_goals exact iteInduction (motive := fun m => owed m ≤ n) (fun _ => h) (fun _ => h.nonneg)

/-- Whichever branch is taken, enough is counted. -/
theorem covers_ite {p : Prop} [Decidable p] {x y : Int × Following} (hx : Covers x.1 x.2)
    (hy : Covers y.1 y.2) : Covers (if p then x else y).1 (if p then x else y).2 :=
  iteInduction (motive := fun z : Int × Following => Covers z.1 z.2) (fun _ => hx) fun _ => hy

theorem covers_alone (c : Char) : Covers (alone c).1 (alone c).2 := by
  unfold alone
  refine covers_ite ?_ ?_
  · exact iteInduction (motive := fun n => Covers 1 (.of n)) (fun _ => by decide) fun _ => by decide
  · cases selector? c with
    | some s =>
      have hp : Covers 0 .plain := by decide
      exact hp.select s
    | none =>
      repeat' refine covers_ite ?_ ?_
      all_goals decide

/-- What is taken back was owed. -/
theorem owed_le_of_together {next n : Neighbour} {added : Int}
    (h : together c next = some (added, n)) : owed n ≤ owed next + added := by
  have hite : ∀ {p : Prop} [Decidable p] {o : Option (Int × Neighbour)} {x : Int × Neighbour},
      owed x.2 ≤ owed next + x.1 → (∀ y ∈ o, owed y.2 ≤ owed next + y.1) →
        ∀ y ∈ (if p then some x else o), owed y.2 ≤ owed next + y.1 := by
    intro p _ o x hx ho
    split
    · simpa using hx
    · exact ho
  suffices hs : ∀ y ∈ together c next, owed y.2 ≤ owed next + y.1 from hs _ h
  cases next with
  | plain | lineFeed | joinedKeycap => simp [together]
  | lamed joined | buginese joined | orkhon joined =>
    cases joined
    · simp [together]
    · exact hite (by decide) (by simp)
  | _ =>
    rw [together]
    repeat' refine hite (by simp [owed]) ?_
    simp

theorem Covers.together {next n : Neighbour} {counted added : Int}
    (hn : Covers counted (.of next)) (h : together c next = some (added, n)) :
    Covers (counted + added) (.of n) :=
  Int.le_trans (owed_le_of_together h) (Int.add_le_add_right hn added)

/-- A character by itself takes nothing back. -/
theorem Covers.alone {counted : Int} {next : Following} (hn : Covers counted next) (c : Char) :
    Covers (counted + (alone c).1) (alone c).2 :=
  Int.le_trans (covers_alone c) (Int.le_add_of_nonneg_left hn.nonneg)

theorem Covers.inFront {counted : Int} {next : Neighbour} (hn : Covers counted (.of next))
    (c : Char) : Covers (counted + (inFront c next).1) (inFront c next).2 := by
  have hj : owed next.join ≤ owed next := by cases next <;> simp [Neighbour.join, owed]
  unfold Columns.inFront
  split
  · rw [Int.add_zero]
    exact Int.le_trans hj hn
  split
  · rwa [Int.add_zero]
  split
  case _ ht => exact hn.together ht
  case _ => exact hn.alone c

theorem Covers.taken {counted : Int} {next : Following} {x : Int × Following}
    (hn : Covers counted next) (h : taken? c next = some x) : Covers (counted + x.1) x.2 := by
  have hx : Covers x.1 x.2 := by
    unfold taken? at h
    repeat' split at h
    all_goals cases h
    all_goals decide
  exact Int.le_trans hx (Int.le_add_of_nonneg_left hn.nonneg)

theorem Covers.step {counted : Int} {next : Following} (hn : Covers counted next) (c : Char) :
    Covers (counted + (step c next).1) (step c next).2 := by
  unfold Columns.step
  split
  case _ ht => exact hn.taken ht
  case _ =>
    -- what a selector hides is owed nothing any more
    generalize hnext : (if next.selector = some .picture && !next.neighbour.keepsSelector
      then Following.plain else next) = seen
    have hs : Covers counted seen := by
      rw [← hnext]
      exact iteInduction (motive := Covers counted) (fun _ => hn.nonneg) fun _ => hn
    dsimp only
    split
    · split
      · rw [Int.add_zero]
        exact hn.nonneg
      · exact hs.alone c
    · cases selector? c with
      | some s =>
        rw [Int.add_zero]
        exact hs.select s
      | none =>
        have hs : Covers counted (.of seen.neighbour) := hs
        exact hs.inFront c

/-- Whatever follows, more columns are counted than can be taken back. -/
theorem covers_measure (cs : List Char) : Covers (measure cs).1 (measure cs).2 := by
  induction cs with
  | nil => decide
  | cons c cs ih => exact ih.step c

theorem measure_nonneg (cs : List Char) : 0 ≤ (measure cs).1 := (covers_measure cs).nonneg

theorem ofChars_eq (cs : List Char) : (ofChars cs : Int) = (measure cs).1 :=
  Int.toNat_of_nonneg (measure_nonneg cs)

/-- Nothing is drawn together across spaces. -/
theorem ofChars_append_spaces (n : Nat) (cs ds : List Char) :
    ofChars (cs ++ (List.replicate (n + 1) ' ' ++ ds)) = ofChars cs + (n + 1) + ofChars ds := by
  have hs := measure_spaces n ds
  have hm := congrArg Prod.fst (measure_append cs (congrArg Prod.snd hs))
  rw [hs] at hm
  have hi := ofChars_eq (cs ++ (List.replicate (n + 1) ' ' ++ ds))
  have hc := ofChars_eq cs
  have hd := ofChars_eq ds
  dsimp only at hm
  omega

end Columns

-- ---------------------------------------------------------------------------
-- Text that takes the columns of its characters
-- ---------------------------------------------------------------------------

/-- No characters of the text are drawn together. -/
def Additive (cs : List Char) : Prop := Columns.ofChars cs = sumColumns cs

theorem Additive.append_spaces {cs ds : List Char} (hc : Additive cs) (hd : Additive ds)
    (n : Nat) : Additive (cs ++ (List.replicate (n + 1) ' ' ++ ds)) := by
  rw [Additive] at hc hd ⊢
  rw [Columns.ofChars_append_spaces, hc, hd]
  simp [Nat.add_assoc]

/-- Text that can be laid out by columns: it holds no control characters, its
columns are those of its characters, and no white space stands at its end. -/
structure Regular (s : String) : Prop where
  printable : Printable s
  columns : columns s = sumColumns s.toList
  noBlankEnd : s.toList.getLast?.any isBlank = false

instance (s : String) : Decidable (Regular s) :=
  decidable_of_iff (Printable s ∧ columns s = sumColumns s.toList ∧
      s.toList.getLast?.any isBlank = false)
    ⟨fun ⟨hp, hc, hb⟩ => ⟨hp, hc, hb⟩, fun ⟨hp, hc, hb⟩ => ⟨hp, hc, hb⟩⟩

theorem columns_eq_ofChars {s : String} (h : Printable s) :
    columns s = Columns.ofChars s.toList := by
  rw [columns, (ShownAs.refl h).strip]

theorem Regular.additive {s : String} (h : Regular s) : Additive s.toList :=
  (columns_eq_ofChars h.printable).symm.trans h.columns

theorem trimEnd_append (cs ds : List Char) :
    trimEnd (cs ++ ds) = if trimEnd ds = [] then trimEnd cs else cs ++ trimEnd ds := by
  simp only [trimEnd, List.reverse_append, List.dropWhile_append, List.isEmpty_iff,
    List.reverse_eq_nil_iff]
  split <;> simp

theorem trimEnd_eq_self {cs : List Char} (h : cs.getLast?.any isBlank = false) :
    trimEnd cs = cs := by
  rcases List.eq_nil_or_concat cs with rfl | ⟨cs, c, rfl⟩
  · rfl
  · have hc : isBlank c = false := by simpa using h
    simp [trimEnd, hc]

theorem Regular.trimEnd_toList {s : String} (h : Regular s) : trimEnd s.toList = s.toList :=
  trimEnd_eq_self h.noBlankEnd

theorem Additive.append_comma {cs : List Char} (h : Additive cs) : Additive (cs ++ [',']) := by
  have hm : Columns.measure [','] = (1, .plain) := by decide
  have hc : charColumns ',' = 1 := by decide
  have hap := Columns.measure_append cs (congrArg Prod.snd hm)
  have hcs := Columns.ofChars_eq cs
  rw [Additive] at h ⊢
  rw [Columns.ofChars, hap, hm, ← hcs, h, sumColumns_append, sumColumns_cons, hc, sumColumns_nil]
  omega

/-- Text behind a comma and a space is laid out as if it stood alone. -/
theorem Regular.append_comma {s t : String} (hs : Regular s) (ht : Regular t) (hne : t ≠ "") :
    Regular (s ++ ", " ++ t) := by
  have hsep : Printable ", " := by decide
  have hp : Printable (s ++ ", " ++ t) := (hs.printable.append hsep).append ht.printable
  have hl : (s ++ ", " ++ t).toList =
      (s.toList ++ [',']) ++ (List.replicate 1 ' ' ++ t.toList) := by simp
  have ha : Additive (s ++ ", " ++ t).toList := by
    rw [hl]
    exact hs.additive.append_comma.append_spaces ht.additive 0
  refine ⟨hp, (columns_eq_ofChars hp).trans ha, ?_⟩
  have hlast : (s ++ ", " ++ t).toList.getLast? = t.toList.getLast? := by
    rw [String.toList_append, List.getLast?_append_of_ne_nil _ (by simpa using hne)]
  rw [hlast]
  exact ht.noBlankEnd

end SecretAccess.Text
