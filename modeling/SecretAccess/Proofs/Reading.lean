/-!
# Reading text

Small readers of text, to state what a printed text decodes to. A reader takes
the text in front of it and gives back what it read with the text behind, or
nothing where the text has no such form.
-/

namespace SecretAccess.Reading

abbrev Read (α : Type) := α × List Char

/-- The text behind what is expected, if this stands in front. -/
def expect : List Char → List Char → Option (List Char)
  | [], cs => some cs
  | _ :: _, [] => none
  | e :: es, c :: cs => if c = e then expect es cs else none

/-- Items as long as there is one. One that takes no text is none. -/
def many {α : Type} (item : List Char → Option (Read α)) (cs : List Char) : Read (List α) :=
  match item cs with
  | none => ([], cs)
  | some (a, rest) =>
    if rest.length < cs.length then
      let (as, rest) := many item rest
      (a :: as, rest)
    else ([], cs)
termination_by cs.length

theorem expect_append_append (fs es cs : List Char) :
    expect (fs ++ es) (fs ++ cs) = expect es cs := by
  induction fs with
  | nil => rfl
  | cons f fs ih => simpa [expect] using ih

@[simp] theorem expect_append (es cs : List Char) : expect es (es ++ cs) = some cs := by
  simpa [expect] using expect_append_append es [] cs

theorem eq_append_of_expect {es cs rest : List Char} (h : expect es cs = some rest) :
    cs = es ++ rest := by
  induction es generalizing cs with
  | nil => simpa [expect] using h
  | cons e es ih =>
    cases cs with
    | nil => cases h
    | cons c cs =>
      rw [expect] at h
      split at h
      case isTrue hc => rw [hc, ih h, List.cons_append]
      case isFalse => cases h

theorem many_of_none {α : Type} {item : List Char → Option (Read α)} {cs : List Char}
    (h : item cs = none) : many item cs = ([], cs) := by
  rw [many, h]

/-- Items that are read back one by one are read back in a row, up to the first
text that is no item. -/
theorem many_flatMap {α : Type} {item : List Char → Option (Read α)} {print : α → List Char}
    {as : List α} {tail : List Char}
    (hread : ∀ a ∈ as, ∀ rest, item (print a ++ rest) = some (a, rest))
    (hprint : ∀ a ∈ as, print a ≠ []) (htail : item tail = none) :
    many item (as.flatMap print ++ tail) = (as, tail) := by
  induction as with
  | nil => exact many_of_none htail
  | cons a as ih =>
    have hlt : (as.flatMap print ++ tail).length <
        (print a ++ (as.flatMap print ++ tail)).length := by
      have := List.length_pos_iff.mpr (hprint a (by simp))
      simp only [List.length_append]
      omega
    have ih := ih (fun b hb => hread b (by simp [hb])) (fun b hb => hprint b (by simp [hb]))
    rw [List.flatMap_cons, List.append_assoc, many, hread a (by simp)]
    simp only [if_pos hlt, ih]

/-- A row of items was read from the row of their texts, and what holds of each
item that can be read holds of all of them. -/
theorem of_many {α : Type} {item : List Char → Option (Read α)} {print : α → List Char}
    {P : α → Prop} (hitem : ∀ {cs a rest}, item cs = some (a, rest) → P a ∧ cs = print a ++ rest)
    {cs rest : List Char} {as : List α} (h : many item cs = (as, rest)) :
    (∀ a ∈ as, P a) ∧ cs = as.flatMap print ++ rest := by
  fun_induction many item cs generalizing as with
  | case1 | case3 =>
    obtain ⟨rfl, rfl⟩ := Prod.mk.inj h
    simp
  | case2 cs a cs' ha hlt bs rest' hbs ih =>
    obtain ⟨rfl, rfl⟩ := Prod.mk.inj h
    obtain ⟨hP, hcs⟩ := hitem ha
    obtain ⟨hPs, hrest⟩ := ih hbs
    refine ⟨List.forall_mem_cons.mpr ⟨hP, hPs⟩, ?_⟩
    rw [List.flatMap_cons, List.append_assoc, ← hrest, hcs]

end SecretAccess.Reading
