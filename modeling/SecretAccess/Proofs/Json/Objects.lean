import SecretAccess.Proofs.Json.Reader

/-!
# Reading arrays of objects

A text that has to be an array of objects is read without building the array
first, and within limits: values are nested no deeper than the reader goes, and
numbers are in its range. It is read just when it is such a document
(`parseObjects_eq_ok_iff`).
-/

namespace SecretAccess.Json

-- ---------------------------------------------------------------------------
-- Limits
-- ---------------------------------------------------------------------------

/-- The text is a strict JSON document that is nested no deeper than `room`
levels and has no numbers that do not fit. -/
def DocumentWithin (fits : Magnitude → Bool) (room : Nat) (text : String) (j : Json) : Prop :=
  ∃ e : Grammar.Element, e.Spaced ∧ e.item = j ∧ Grammar.Value fits room e.item e.text ∧
    e.whole = text.toList

theorem Grammar.Value.imp {fits fits' : Magnitude → Bool} (hfits : ∀ m, fits m → fits' m)
    {room : Nat} {j : Json} {t : List Char} (h : Value fits room j t) : Value fits' room j t := by
  induction h with
  | null => exact .null
  | isTrue => exact .isTrue
  | isFalse => exact .isFalse
  | positive hn hsize => exact .positive hn (hfits _ hsize)
  | negative hn hsize => exact .negative hn (hfits _ hsize)
  | string ht => exact .string ht
  | emptyArray hb => exact .emptyArray hb
  | array hne hspaced _ ih => exact .array hne hspaced ih
  | emptyObject hb => exact .emptyObject hb
  | object hne hspaced _ ih => exact .object hne hspaced ih

theorem DocumentWithin.document {fits : Magnitude → Bool} {room : Nat} {text : String} {j : Json}
    (h : DocumentWithin fits room text j) : Document text j := by
  obtain ⟨e, hspaced, he, hv, htext⟩ := h
  exact ⟨room, e, hspaced, he, hv.imp fun _ _ => rfl, htext⟩

/-- An array takes one level, and its items have the others. -/
theorem Grammar.exists_room_of_value_array {fits : Magnitude → Bool} {room : Nat} {t : List Char}
    {items : List Json} (h : Value fits room (.array items) t) :
    ∃ k, room = k + 1 ∧ ∀ item ∈ items, ∃ t, Value fits k item t := by
  cases h with
  | emptyArray => exact ⟨_, rfl, by simp⟩
  | array _ _ hv =>
    refine ⟨_, rfl, fun item hi => ?_⟩
    obtain ⟨e, he, rfl⟩ := List.mem_map.mp hi
    exact ⟨_, hv e he⟩

theorem Grammar.exists_room_of_value_object {fits : Magnitude → Bool} {room : Nat} {t : List Char}
    {members : List (String × Json)} (h : Value fits room (.object members) t) :
    ∃ k, room = k + 1 ∧ ∀ m ∈ members, ∃ t, Value fits k m.2 t := by
  cases h with
  | emptyObject => exact ⟨_, rfl, by simp⟩
  | object _ _ hv =>
    refine ⟨_, rfl, fun m hm => ?_⟩
    obtain ⟨e, he, rfl⟩ := List.mem_map.mp hm
    exact ⟨_, hv e he⟩

namespace Reader

open Grammar

variable {fuel : Nat} {a cs rest t : List Char} {isFirst : Bool}

-- ---------------------------------------------------------------------------
-- One object
-- ---------------------------------------------------------------------------

/-- The members of an object in an array, read as those of a value would be. -/
theorem members_eq_ok_iff {found : List (String × Json)} :
    members Magnitude.inRange fuel (maxNesting - 2) true cs = .ok (found, rest) ↔
      value Magnitude.inRange (fuel + 1) (maxNesting - 1) ('\x7b' :: cs) =
        .ok (.object found, rest) := by
  have hblank : isBlank '\x7b' = false := rfl
  constructor
  · exact value_object
  · intro h
    simp only [value, skipBlanks_cons hblank, maxNesting, Nat.reduceSub, bind_eq_ok_iff,
      Prod.exists] at h
    obtain ⟨found', rest', hm, h⟩ := h
    obtain ⟨hf, rfl⟩ := Prod.mk.inj (Except.ok.inj h)
    obtain rfl := object.inj hf
    exact hm

theorem eq_cons_of_value_object {found : List (String × Json)} {fits : Magnitude → Bool}
    {room : Nat} (h : Value fits room (.object found) t) : ∃ cs, t = '\x7b' :: cs := by
  cases h with
  | emptyObject => exact ⟨_, rfl⟩
  | object => exact ⟨_, rfl⟩

theorem members_of_value {found : List (String × Json)}
    (h : Value Magnitude.inRange (maxNesting - 1) (.object found) t) (hrest : endsNumber rest) :
    ∃ cs, t ++ rest = '\x7b' :: cs ∧
      members Magnitude.inRange (enough cs) (maxNesting - 2) true cs = .ok (found, rest) := by
  obtain ⟨cs, rfl⟩ := eq_cons_of_value_object h
  refine ⟨cs ++ rest, rfl, members_eq_ok_iff.mpr (reads_of_value h _ _ ?_ hrest)⟩
  simp only [enough, List.length_cons, List.length_append]
  omega

theorem value_of_members {found : List (String × Json)}
    (h : members Magnitude.inRange fuel (maxNesting - 2) true cs = .ok (found, rest)) :
    ∃ t, Value Magnitude.inRange (maxNesting - 1) (.object found) t ∧
      t ++ rest = '\x7b' :: cs := by
  obtain ⟨b, t, hb, ht, hcs⟩ := (sound _ _).value (members_eq_ok_iff.mp h)
  cases b with
  | nil => exact ⟨t, ht, hcs⟩
  | cons c b =>
    obtain ⟨rfl, -⟩ := List.cons.inj hcs
    exact absurd (hb _ List.mem_cons_self) (by decide)

-- ---------------------------------------------------------------------------
-- One step of the reader
-- ---------------------------------------------------------------------------

theorem objects_nil (hs : separated ']' isFirst cs = .ok (false, rest)) :
    objects (fuel + 1) isFirst cs = .ok ([], rest) := by
  simp [objects, hs, bind, Except.bind]

theorem objects_cons {cs₁ cs₂ cs₃ : List Char} {first : List (String × Json)}
    {others : List (List (String × Json))} (hs : separated ']' isFirst cs = .ok (true, cs₁))
    (hb : skipBlanks cs₁ = '\x7b' :: cs₂)
    (hm : members Magnitude.inRange (enough cs₂) (maxNesting - 2) true cs₂ = .ok (first, cs₃))
    (ho : objects fuel false cs₃ = .ok (others, rest)) :
    objects (fuel + 1) isFirst cs = .ok (first :: others, rest) := by
  simp [objects, hs, hb, hm, ho, bind, Except.bind]

theorem of_objects {found : List (List (String × Json))}
    (h : objects (fuel + 1) isFirst cs = .ok (found, rest)) :
    separated ']' isFirst cs = .ok (false, rest) ∧ found = [] ∨
      ∃ cs₁ cs₂ cs₃ first others, separated ']' isFirst cs = .ok (true, cs₁) ∧
        skipBlanks cs₁ = '\x7b' :: cs₂ ∧
          members Magnitude.inRange (enough cs₂) (maxNesting - 2) true cs₂ = .ok (first, cs₃) ∧
            objects fuel false cs₃ = .ok (others, rest) ∧ found = first :: others := by
  simp only [objects, bind_eq_ok_iff, Prod.exists] at h
  obtain ⟨more, cs₁, hs, h⟩ := h
  cases more with
  | false =>
    obtain ⟨rfl, rfl⟩ := Prod.mk.inj (Except.ok.inj h)
    exact .inl ⟨hs, rfl⟩
  | true =>
    rw [if_pos rfl] at h
    split at h
    case h_1 cs₂ hb =>
      simp only [bind_eq_ok_iff, Prod.exists] at h
      obtain ⟨first, cs₃, hm, others, cs₄, ho, h⟩ := h
      obtain ⟨rfl, rfl⟩ := Prod.mk.inj (Except.ok.inj h)
      exact .inr ⟨cs₁, cs₂, cs₃, first, others, hs, hb, hm, ho, rfl⟩
    case h_2 => cases h

-- ---------------------------------------------------------------------------
-- All objects
-- ---------------------------------------------------------------------------

/-- The reader passes an object and goes on behind it. -/
theorem objects_element {e : Element} {first : List (String × Json)}
    {others : List (List (String × Json))} (he : e.Spaced) (ha : Blanks a)
    (hv : Value Magnitude.inRange (maxNesting - 1) (.object first) e.text) (hends : endsNumber cs)
    (hothers : objects fuel false (e.after ++ cs) = .ok (others, rest)) :
    objects (fuel + 1) isFirst (a ++ (comma isFirst ++ (e.whole ++ cs))) =
      .ok (first :: others, rest) := by
  obtain ⟨cs₂, htext, hm⟩ := members_of_value hv (endsNumber_append he.after hends)
  have hs := separated_append isClosing_bracket isFirst ha he.before
    (beginsElement_of_value hv (e.after ++ cs))
  have hb : skipBlanks (e.text ++ (e.after ++ cs)) = '\x7b' :: cs₂ := by
    rw [htext]
    exact skipBlanks_cons rfl
  simpa [Element.whole] using objects_cons hs hb hm hothers

/-- The objects of an array in front of its closing bracket. -/
theorem objects_append {es : List Element} {found : List (List (String × Json))} (hne : es ≠ [])
    (hspaced : ∀ e ∈ es, e.Spaced)
    (hvalues : ∀ e ∈ es, Value Magnitude.inRange (maxNesting - 1) e.item e.text)
    (hfound : es.map (·.item) = found.map .object) (isFirst : Bool) (ha : Blanks a)
    (hfuel : (commaSeparated (es.map Element.whole)).length + 1 < fuel) (rest : List Char) :
    objects fuel isFirst
        (a ++ (comma isFirst ++ (commaSeparated (es.map Element.whole) ++ ']' :: rest))) =
      .ok (found, rest) := by
  induction es generalizing fuel isFirst a found with
  | nil => exact absurd rfl hne
  | cons e es ih =>
    obtain ⟨first, found, rfl⟩ : ∃ first others, found = first :: others :=
      List.exists_cons_of_ne_nil fun h => by simp [h] at hfound
    obtain ⟨he, hspaced⟩ := List.forall_mem_cons.mp hspaced
    obtain ⟨hv, hvalues⟩ := List.forall_mem_cons.mp hvalues
    obtain ⟨hfirst, hfound⟩ : e.item = .object first ∧ es.map (·.item) = found.map .object :=
      List.cons.inj hfound
    obtain ⟨fuel, rfl⟩ := Nat.exists_eq_add_of_le' (show 2 ≤ fuel by omega)
    rw [hfirst] at hv
    by_cases hes : es = []
    · subst hes
      obtain rfl := List.map_eq_nil_iff.mp hfound.symm
      simp only [List.map_cons, List.map_nil, commaSeparated, List.intercalate_singleton]
      exact objects_element he ha hv rfl
        (objects_nil (separated_closing isClosing_bracket false he.after rest))
    · rw [List.map_cons, commaSeparated_cons (by simpa using hes)] at hfuel ⊢
      simp only [List.length_append, List.length_cons] at hfuel
      have hothers := ih hes hspaced hvalues hfound false he.after
        (show _ < fuel + 1 by omega)
      rw [List.append_assoc]
      exact objects_element he ha hv rfl hothers

theorem objects_sound {found : List (List (String × Json))}
    (h : objects fuel isFirst cs = .ok (found, rest)) :
    Listed ']' isFirst found.isEmpty
      (Items Magnitude.inRange (maxNesting - 1) (found.map .object)) rest cs := by
  induction fuel generalizing isFirst cs found with
  | zero => cases h
  | succ fuel ih =>
    rcases of_objects h with ⟨hs, rfl⟩ | ⟨cs₁, cs₂, cs₃, first, others, hs, hb, hm, ho, rfl⟩
    · obtain ⟨b, hb, hcs⟩ := of_separated_false hs
      exact ⟨b, hb, .inl ⟨rfl, hcs⟩⟩
    · obtain ⟨a, b, ha, hfirst, hb', rfl⟩ := of_separated_true hs
      obtain ⟨b'', hb'', hcs₁⟩ := exists_skipBlanks cs₁
      obtain ⟨t, ht, hcs₂⟩ := value_of_members hm
      rw [hb, ← hcs₂] at hcs₁
      subst hcs₁
      obtain ⟨after, hafter, ⟨hempty, rfl⟩ | ⟨-, t', ht', rfl⟩⟩ := ih ho
      all_goals
        have hspaced : Element.Spaced ⟨b ++ b'', .object first, t, after⟩ :=
          ⟨blanks_append hb' hb'', hafter⟩
      · obtain rfl := List.isEmpty_iff.mp hempty
        exact ⟨a, ha, .inr ⟨hfirst, _, .one hspaced ht, by simp [Element.whole]⟩⟩
      · exact ⟨a, ha, .inr ⟨hfirst, _, .cons hspaced ht ht', by simp [Element.whole, comma]⟩⟩

theorem of_value_array {fits : Magnitude → Bool} {room : Nat} {found : List Json}
    (h : Value fits (room + 1) (.array found) t) :
    (found = [] ∧ ∃ b, Blanks b ∧ '[' :: (b ++ [']']) = t) ∨
      ∃ text, Items fits room found text ∧ '[' :: (text ++ [']']) = t := by
  cases h with
  | emptyArray hb => exact .inl ⟨rfl, _, hb, rfl⟩
  | array hne hspaced hvalues =>
    exact .inr ⟨_, ⟨_, hne, hspaced, hvalues, rfl, rfl⟩, rfl⟩

/-- The objects of an array from behind its opening bracket. -/
theorem objects_of_value {found : List (List (String × Json))}
    (h : Value Magnitude.inRange maxNesting (.array (found.map .object)) t) (after : List Char) :
    ∃ cs, '[' :: cs = t ∧
      objects (enough (cs ++ after)) true (cs ++ after) = .ok (found, after) := by
  rcases @of_value_array _ _ (maxNesting - 1) _ h with
    ⟨hnil, b, hb, rfl⟩ | ⟨_, ⟨es, hne, hspaced, hvalues, hes, rfl⟩, rfl⟩
  · obtain rfl := List.map_eq_nil_iff.mp hnil
    refine ⟨_, rfl, ?_⟩
    rw [List.append_assoc]
    exact objects_nil (separated_closing isClosing_bracket true hb after)
  · refine ⟨_, rfl, ?_⟩
    rw [List.append_assoc]
    refine objects_append hne hspaced hvalues hes true blanks_nil ?_ after
    simp only [enough, List.length_append, List.length_cons]
    omega

end Reader

open Grammar Reader

/-- A text is read as an array of objects just when it is such a document. -/
theorem parseObjects_eq_ok_iff {text : String} {found : List (List (String × Json))} :
    parseObjects text = .ok found ↔
      DocumentWithin Magnitude.inRange maxNesting text (.array (found.map .object)) := by
  constructor
  · intro h
    obtain ⟨before, hbefore, htext⟩ := exists_skipBlanks text.toList
    unfold parseObjects at h
    split at h
    case h_1 => cases h
    case h_3 => cases h
    case h_2 cs hskip =>
      simp only [bind_eq_ok_iff, Prod.exists, finish_eq_ok_iff] at h
      obtain ⟨_, after, ho, rfl, hafter⟩ := h
      rw [hskip] at htext
      obtain ⟨b, hb, ⟨hempty, rfl⟩ | ⟨hfirst, t, ht, rfl⟩⟩ := objects_sound ho
      · obtain rfl := List.isEmpty_iff.mp hempty
        exact ⟨⟨before, _, _, after⟩, ⟨hbefore, hafter⟩, rfl, .emptyArray hb,
          by simpa [Element.whole] using htext⟩
      · exact ⟨⟨before, _, _, after⟩, ⟨hbefore, hafter⟩, rfl, .of_items ht,
          by simpa [Element.whole, comma, hfirst rfl] using htext⟩
  · rintro ⟨⟨before, _, t, after⟩, ⟨hbefore, hafter⟩, rfl, ht, htext⟩
    obtain ⟨cs, rfl, ho⟩ := objects_of_value ht after
    have hskip : skipBlanks text.toList = '[' :: (cs ++ after) := by
      rw [← htext, Element.whole, List.append_assoc, skipBlanks_append hbefore]
      exact skipBlanks_cons rfl
    simp only [parseObjects, hskip, ho, bind, Except.bind]
    exact finish_eq_ok_iff.mpr ⟨rfl, hafter⟩

end SecretAccess.Json
