import Mathlib.Data.List.TakeWhile
import SecretAccess.Proofs.Json.Scalars

/-!
# Reading documents

The reader takes a value in front of a text just when the grammar spells it
there, and a text is read as a document just when it is one (`read_eq_ok_iff`),
so that no text is two documents. A call of the reader costs one unit of fuel,
and every character of the text pays for two.
-/

namespace SecretAccess.Json

namespace Reader

open Grammar

variable {fits : Magnitude → Bool} {fuel room : Nat} {c closing : Char} {a b cs rest t : List Char}

-- ---------------------------------------------------------------------------
-- Blanks and commas
-- ---------------------------------------------------------------------------

theorem isBlank_iff : isBlank c ↔ c = ' ' ∨ c = '\n' ∨ c = '\t' ∨ c = '\r' := by
  simp [isBlank, or_assoc]

theorem skipBlanks_append (h : Blanks b) (cs : List Char) : skipBlanks (b ++ cs) = skipBlanks cs :=
  List.dropWhile_append_of_pos fun c hc => isBlank_iff.mpr (h c hc)

theorem skipBlanks_cons (h : isBlank c = false) : skipBlanks (c :: cs) = c :: cs := by
  simp [skipBlanks, h]

theorem exists_skipBlanks (cs : List Char) : ∃ b, Blanks b ∧ b ++ skipBlanks cs = cs := by
  refine ⟨cs.takeWhile isBlank, fun c hc => isBlank_iff.mp ?_, List.takeWhile_append_dropWhile⟩
  exact List.all_eq_true.mp List.all_takeWhile c hc

theorem value_append_of_blanks (h : Blanks b) (cs : List Char) :
    value fits fuel room (b ++ cs) = value fits fuel room cs := by
  cases fuel with
  | zero => rfl
  | succ fuel => simp only [value, skipBlanks_append h]

def isClosing (c : Char) : Bool := c = ']' || c = '\x7d'

theorem isClosing_bracket : isClosing ']' := rfl

theorem isClosing_brace : isClosing '\x7d' := rfl

theorem isBlank_of_isClosing (h : isClosing c) : isBlank c = false := by
  rcases (by simpa [isClosing] using h : c = ']' ∨ c = '\x7d') with rfl | rfl <;> rfl

/-- An element stands here, with no blanks in front of it. -/
def beginsElement : List Char → Bool
  | [] => false
  | c :: _ => !(isBlank c || isClosing c)

/-- The first character of an element ends no list and is not skipped. -/
theorem eq_cons_of_beginsElement (hclosing : isClosing closing) (h : beginsElement cs) :
    ∃ c rest, cs = c :: rest ∧ skipBlanks cs = c :: rest ∧ c ≠ closing := by
  cases cs with
  | nil => cases h
  | cons c rest =>
    have hc : isBlank c = false ∧ isClosing c = false := by simpa [beginsElement] using h
    refine ⟨c, rest, rfl, skipBlanks_cons hc.1, ?_⟩
    rintro rfl
    simp [hclosing] at hc

/-- What stands in front of an element, between blanks. -/
def comma (isFirst : Bool) : List Char := if isFirst then [] else [',']

theorem separated_append (hclosing : isClosing closing) (isFirst : Bool) (ha : Blanks a)
    (hb : Blanks b) (h : beginsElement cs) :
    separated closing isFirst (a ++ (comma isFirst ++ (b ++ cs))) = .ok (true, cs) := by
  obtain ⟨c, rest, rfl, hskip, hne⟩ := eq_cons_of_beginsElement hclosing h
  cases isFirst with
  | true => simp [separated, comma, skipBlanks_append ha, skipBlanks_append hb, hskip, hne]
  | false =>
    have hcomma : ',' ≠ closing := by
      rintro rfl
      simp [isClosing] at hclosing
    have hblank : isBlank ',' = false := rfl
    simp [separated, comma, skipBlanks_append ha, skipBlanks_cons hblank, hcomma,
      skipBlanks_append hb, hskip, hne]

theorem separated_closing (hclosing : isClosing closing) (isFirst : Bool) (hb : Blanks b)
    (cs : List Char) : separated closing isFirst (b ++ closing :: cs) = .ok (false, cs) := by
  simp [separated, skipBlanks_append hb, skipBlanks_cons (isBlank_of_isClosing hclosing)]

theorem of_separated_true {isFirst : Bool} (h : separated closing isFirst cs = .ok (true, rest)) :
    ∃ a b, Blanks a ∧ (isFirst → a = []) ∧ Blanks b ∧
      a ++ (comma isFirst ++ (b ++ rest)) = cs := by
  obtain ⟨a, ha, hcs⟩ := exists_skipBlanks cs
  unfold separated at h
  split at h
  case h_1 => cases h
  case h_2 c cs' hskip =>
    rw [hskip] at hcs
    split at h
    case isTrue => cases h
    case isFalse =>
      split at h
      case isTrue hfirst =>
        obtain ⟨-, rfl⟩ := Prod.mk.inj (Except.ok.inj h)
        exact ⟨[], a, blanks_nil, fun _ => rfl, ha, by simpa [comma, hfirst] using hcs⟩
      case isFalse hfirst =>
        split at h
        case isFalse => cases h
        case isTrue hcomma =>
          obtain ⟨b, hb, hcs'⟩ := exists_skipBlanks cs'
          split at h
          case h_1 => cases h
          case h_2 d cs'' hskip' =>
            split at h
            case isTrue => cases h
            case isFalse =>
              obtain ⟨-, rfl⟩ := Prod.mk.inj (Except.ok.inj h)
              refine ⟨a, b, ha, fun hf => absurd hf hfirst, hb, ?_⟩
              rw [← hskip', hcs', ← hcs, hcomma]
              simp [comma, hfirst]

theorem of_separated_false {isFirst : Bool} (h : separated closing isFirst cs = .ok (false, rest)) :
    ∃ b, Blanks b ∧ b ++ closing :: rest = cs := by
  obtain ⟨b, hb, hcs⟩ := exists_skipBlanks cs
  unfold separated at h
  split at h
  case h_1 => cases h
  case h_2 c cs' hskip =>
    split at h
    case isTrue hclosing =>
      obtain ⟨-, rfl⟩ := Prod.mk.inj (Except.ok.inj h)
      exact ⟨b, hb, by rw [← hcs, hskip, hclosing]⟩
    case isFalse =>
      split at h
      case isTrue => cases h
      case isFalse =>
        split at h
        case isFalse => cases h
        case isTrue =>
          split at h
          case h_1 => cases h
          case h_2 => split at h <;> cases h

theorem memberName_eq_ok_iff {name : String} :
    memberName cs = .ok (name, rest) ↔
      ∃ t b, StringText name.toList t ∧ Blanks b ∧ quoted t ++ (b ++ ':' :: rest) = cs := by
  constructor
  · intro h
    unfold memberName at h
    split at h
    case h_2 => cases h
    case h_1 cs =>
      simp only [bind_eq_ok_iff, Prod.exists] at h
      obtain ⟨name', cs', hname, h⟩ := h
      obtain ⟨t, ht, rfl⟩ := stringBody_eq_ok_iff.mp hname
      obtain ⟨b, hb, hcs⟩ := exists_skipBlanks cs'
      split at h
      case h_2 hskip =>
        obtain ⟨rfl, rfl⟩ := Prod.mk.inj (Except.ok.inj h)
        exact ⟨t, b, ht, hb, by rw [← hcs, hskip]; simp [quoted]⟩
      all_goals cases h
  · rintro ⟨t, b, ht, hb, rfl⟩
    have hbody : stringBody (t ++ '"' :: (b ++ ':' :: rest)) = .ok (name, b ++ ':' :: rest) :=
      stringBody_eq_ok_iff.mpr ⟨t, ht, rfl⟩
    have hcolon : isBlank ':' = false := rfl
    simp only [quoted, List.cons_append, List.append_assoc, List.nil_append, memberName, bind,
      Except.bind]
    rw [hbody]
    simp [skipBlanks_append hb, skipBlanks_cons hcolon]

-- ---------------------------------------------------------------------------
-- One step of the reader
-- ---------------------------------------------------------------------------

theorem items_nil {isFirst : Bool} (hs : separated ']' isFirst cs = .ok (false, rest)) :
    items fits (fuel + 1) room isFirst cs = .ok ([], rest) := by
  simp [items, hs, bind, Except.bind]

theorem items_cons {cs₁ cs₂ : List Char} {isFirst : Bool} {item : Json} {others : List Json}
    (hs : separated ']' isFirst cs = .ok (true, cs₁))
    (hv : value fits fuel room cs₁ = .ok (item, cs₂))
    (hi : items fits fuel room false cs₂ = .ok (others, rest)) :
    items fits (fuel + 1) room isFirst cs = .ok (item :: others, rest) := by
  simp [items, hs, hv, hi, bind, Except.bind]

theorem of_items {isFirst : Bool} {found : List Json}
    (h : items fits (fuel + 1) room isFirst cs = .ok (found, rest)) :
    separated ']' isFirst cs = .ok (false, rest) ∧ found = [] ∨
      ∃ cs₁ cs₂ item others, separated ']' isFirst cs = .ok (true, cs₁) ∧
        value fits fuel room cs₁ = .ok (item, cs₂) ∧
          items fits fuel room false cs₂ = .ok (others, rest) ∧ found = item :: others := by
  simp only [items, bind_eq_ok_iff, Prod.exists] at h
  obtain ⟨more, cs₁, hs, h⟩ := h
  cases more with
  | false =>
    obtain ⟨rfl, rfl⟩ := Prod.mk.inj (Except.ok.inj h)
    exact .inl ⟨hs, rfl⟩
  | true =>
    simp only [if_true, bind_eq_ok_iff, Prod.exists] at h
    obtain ⟨item, cs₂, hv, others, cs₃, hi, h⟩ := h
    obtain ⟨rfl, rfl⟩ := Prod.mk.inj (Except.ok.inj h)
    exact .inr ⟨cs₁, cs₂, item, others, hs, hv, hi, rfl⟩

theorem members_nil {isFirst : Bool} (hs : separated '\x7d' isFirst cs = .ok (false, rest)) :
    members fits (fuel + 1) room isFirst cs = .ok ([], rest) := by
  simp [members, hs, bind, Except.bind]

theorem members_cons {cs₁ cs₂ cs₃ : List Char} {isFirst : Bool} {name : String} {member : Json}
    {others : List (String × Json)} (hs : separated '\x7d' isFirst cs = .ok (true, cs₁))
    (hn : memberName cs₁ = .ok (name, cs₂)) (hv : value fits fuel room cs₂ = .ok (member, cs₃))
    (hm : members fits fuel room false cs₃ = .ok (others, rest)) :
    members fits (fuel + 1) room isFirst cs = .ok ((name, member) :: others, rest) := by
  simp [members, hs, hn, hv, hm, bind, Except.bind]

theorem of_members {isFirst : Bool} {found : List (String × Json)}
    (h : members fits (fuel + 1) room isFirst cs = .ok (found, rest)) :
    separated '\x7d' isFirst cs = .ok (false, rest) ∧ found = [] ∨
      ∃ cs₁ cs₂ cs₃ name member others, separated '\x7d' isFirst cs = .ok (true, cs₁) ∧
        memberName cs₁ = .ok (name, cs₂) ∧ value fits fuel room cs₂ = .ok (member, cs₃) ∧
          members fits fuel room false cs₃ = .ok (others, rest) ∧
            found = (name, member) :: others := by
  simp only [members, bind_eq_ok_iff, Prod.exists] at h
  obtain ⟨more, cs₁, hs, h⟩ := h
  cases more with
  | false =>
    obtain ⟨rfl, rfl⟩ := Prod.mk.inj (Except.ok.inj h)
    exact .inl ⟨hs, rfl⟩
  | true =>
    simp only [if_true, bind_eq_ok_iff, Prod.exists] at h
    obtain ⟨name, cs₂, hn, member, cs₃, hv, others, cs₄, hm, h⟩ := h
    obtain ⟨rfl, rfl⟩ := Prod.mk.inj (Except.ok.inj h)
    exact .inr ⟨cs₁, cs₂, cs₃, name, member, others, hs, hn, hv, hm, rfl⟩

theorem value_array {found : List Json} (h : items fits fuel room true cs = .ok (found, rest)) :
    value fits (fuel + 1) (room + 1) ('[' :: cs) = .ok (.array found, rest) := by
  have hblank : isBlank '[' = false := rfl
  simp [value, skipBlanks_cons hblank, h, bind, Except.bind]

theorem value_object {found : List (String × Json)}
    (h : members fits fuel room true cs = .ok (found, rest)) :
    value fits (fuel + 1) (room + 1) ('\x7b' :: cs) = .ok (.object found, rest) := by
  have hblank : isBlank '\x7b' = false := rfl
  simp [value, skipBlanks_cons hblank, h, bind, Except.bind]

theorem value_eq_scalar (hblank : isBlank c = false) (harray : c ≠ '[') (hobject : c ≠ '\x7b') :
    value fits (fuel + 1) room (c :: cs) = scalar fits (c :: cs) := by
  rw [value, skipBlanks_cons hblank]
  split
  case h_1 he => exact absurd (List.cons.inj he).1 harray
  case h_2 he => exact absurd (List.cons.inj he).1 hobject
  case h_3 => rfl

theorem of_value {j : Json} (h : value fits (fuel + 1) room cs = .ok (j, rest)) :
    ∃ b cs', Blanks b ∧ b ++ cs' = cs ∧
      ((∃ room' cs'' found, room = room' + 1 ∧ cs' = '[' :: cs'' ∧
          items fits fuel room' true cs'' = .ok (found, rest) ∧ j = .array found) ∨
        (∃ room' cs'' found, room = room' + 1 ∧ cs' = '\x7b' :: cs'' ∧
          members fits fuel room' true cs'' = .ok (found, rest) ∧ j = .object found) ∨
        scalar fits cs' = .ok (j, rest)) := by
  obtain ⟨b, hb, hcs⟩ := exists_skipBlanks cs
  refine ⟨b, skipBlanks cs, hb, hcs, ?_⟩
  rw [value] at h
  split at h
  case h_1 cs'' hskip =>
    cases room with
    | zero => cases h
    | succ room =>
      simp only [bind_eq_ok_iff, Prod.exists] at h
      obtain ⟨found, cs₁, hi, h⟩ := h
      obtain ⟨rfl, rfl⟩ := Prod.mk.inj (Except.ok.inj h)
      exact .inl ⟨room, cs'', found, rfl, hskip, hi, rfl⟩
  case h_2 cs'' hskip =>
    cases room with
    | zero => cases h
    | succ room =>
      simp only [bind_eq_ok_iff, Prod.exists] at h
      obtain ⟨found, cs₁, hm, h⟩ := h
      obtain ⟨rfl, rfl⟩ := Prod.mk.inj (Except.ok.inj h)
      exact .inr (.inl ⟨room, cs'', found, rfl, hskip, hm, rfl⟩)
  case h_3 => exact .inr (.inr h)

-- ---------------------------------------------------------------------------
-- Every text of the grammar is read
-- ---------------------------------------------------------------------------

theorem beginsElement_of_isDigit (h : c.isDigit) : beginsElement (c :: cs) := by
  have hne : ∀ b : Char, b.isDigit = false → c ≠ b := by
    rintro _ hb rfl
    simp [h] at hb
  simp [beginsElement, isBlank, isClosing, hne]

theorem exists_text_eq_cons {n : Numeral} (h : n.WellFormed) :
    ∃ c cs, n.text = c :: cs ∧ c.isDigit := by
  obtain ⟨hne, hall⟩ := h.whole
  obtain ⟨c, cs, hcs⟩ := List.exists_cons_of_ne_nil hne
  exact ⟨c, cs ++ n.decimalText ++ n.exponentText, by simp [Numeral.text, hcs],
    hall c (hcs ▸ List.mem_cons_self)⟩

theorem beginsElement_of_value {j : Json} (h : Value fits room j t) (cs : List Char) :
    beginsElement (t ++ cs) := by
  cases h with
  | positive hn =>
    obtain ⟨c, ds, hds, hc⟩ := exists_text_eq_cons hn
    rw [hds]
    exact beginsElement_of_isDigit hc
  | _ => rfl

theorem endsNumber_append (hb : Blanks b) (h : endsNumber rest) : endsNumber (b ++ rest) := by
  cases b with
  | nil => exact h
  | cons c b => rcases hb c List.mem_cons_self with rfl | rfl | rfl | rfl <;> rfl

/-- The text is read as this value, whatever stands behind it unless a number
goes on there. -/
def Reads (fits : Magnitude → Bool) (room : Nat) (j : Json) (t : List Char) : Prop :=
  ∀ fuel rest, 2 * t.length ≤ fuel + 1 → endsNumber rest →
    value fits fuel room (t ++ rest) = .ok (j, rest)

theorem reads_scalar {j : Json} (hblank : isBlank c = false) (harray : c ≠ '[')
    (hobject : c ≠ '\x7b')
    (h : ∀ rest, endsNumber rest → scalar fits (c :: (cs ++ rest)) = .ok (j, rest)) :
    Reads fits room j (c :: cs) := by
  intro fuel rest hfuel hrest
  rw [List.length_cons] at hfuel
  obtain ⟨fuel, rfl⟩ := Nat.exists_eq_add_of_le' (show 1 ≤ fuel by omega)
  rw [List.cons_append, value_eq_scalar hblank harray hobject, h rest hrest]

theorem scalar_of_isDigit (h : c.isDigit) : scalar fits (c :: cs) = number fits [] (c :: cs) := by
  unfold scalar
  split <;> simp_all

theorem reads_positive {n : Numeral} (hn : n.WellFormed) (hfits : fits n.size) :
    Reads fits room (.number (String.ofList n.text)) n.text := by
  obtain ⟨c, cs, hcs, hc⟩ := exists_text_eq_cons hn
  have hne : ∀ b : Char, b.isDigit = false → c ≠ b := by
    rintro _ hb rfl
    simp [hc] at hb
  have hblank : isBlank c = false := by simp [isBlank, hne]
  have hread : ∀ rest, endsNumber rest →
      scalar fits (c :: (cs ++ rest)) = .ok (.number (String.ofList n.text), rest) := by
    intro rest hrest
    rw [scalar_of_isDigit hc, ← List.cons_append, ← hcs]
    exact number_append hn hfits hrest []
  rw [hcs] at hread ⊢
  exact reads_scalar hblank (hne _ rfl) (hne _ rfl) hread

/-- The reader passes an item and goes on behind it. -/
theorem items_element {e : Element} {isFirst : Bool} {others : List Json} (he : e.Spaced)
    (ha : Blanks a) (hv : Value fits room e.item e.text) (hr : Reads fits room e.item e.text)
    (hfuel : 2 * e.whole.length ≤ fuel + 1) (hends : endsNumber cs)
    (hothers : items fits fuel room false (e.after ++ cs) = .ok (others, rest)) :
    items fits (fuel + 1) room isFirst (a ++ (comma isFirst ++ (e.whole ++ cs))) =
      .ok (e.item :: others, rest) := by
  simp only [Element.whole, List.length_append] at hfuel
  have hs := separated_append isClosing_bracket isFirst ha he.before
    (beginsElement_of_value hv (e.after ++ cs))
  have hitem := hr fuel (e.after ++ cs) (by omega) (endsNumber_append he.after hends)
  simpa [Element.whole] using items_cons hs hitem hothers

theorem members_member {m : Member} {isFirst : Bool} {others : List (String × Json)}
    (hm : m.Spaced) (ha : Blanks a) (hr : Reads fits room m.element.item m.element.text)
    (hfuel : 2 * m.whole.length ≤ fuel + 1) (hends : endsNumber cs)
    (hothers : members fits fuel room false (m.element.after ++ cs) = .ok (others, rest)) :
    members fits (fuel + 1) room isFirst (a ++ (comma isFirst ++ (m.whole ++ cs))) =
      .ok (m.content :: others, rest) := by
  simp only [Member.whole, Element.whole, List.length_append, List.length_cons] at hfuel
  let element := m.element.before ++ (m.element.text ++ (m.element.after ++ cs))
  have hbegins : beginsElement (quoted m.nameText ++ (m.afterName ++ ':' :: element)) := rfl
  have hs := separated_append isClosing_brace isFirst ha hm.before hbegins
  have hname : memberName (quoted m.nameText ++ (m.afterName ++ ':' :: element)) =
      .ok (m.name, element) :=
    memberName_eq_ok_iff.mpr ⟨_, _, hm.name, hm.afterName, rfl⟩
  have hvalue : value fits fuel room element = .ok (m.element.item, m.element.after ++ cs) := by
    rw [value_append_of_blanks hm.element.before]
    exact hr fuel _ (by omega) (endsNumber_append hm.element.after hends)
  simpa [Member.whole, Element.whole, Member.content, element] using
    members_cons hs hname hvalue hothers

/-- The items of an array in front of its closing bracket. -/
theorem items_append {es : List Element} (hne : es ≠ []) (hspaced : ∀ e ∈ es, e.Spaced)
    (hvalues : ∀ e ∈ es, Value fits room e.item e.text)
    (hreads : ∀ e ∈ es, Reads fits room e.item e.text) (isFirst : Bool) (ha : Blanks a)
    (hfuel : 2 * (commaSeparated (es.map Element.whole)).length + 1 < fuel) (rest : List Char) :
    items fits fuel room isFirst
        (a ++ (comma isFirst ++ (commaSeparated (es.map Element.whole) ++ ']' :: rest))) =
      .ok (es.map (·.item), rest) := by
  induction es generalizing fuel isFirst a with
  | nil => exact absurd rfl hne
  | cons e es ih =>
    obtain ⟨he, hspaced⟩ := List.forall_mem_cons.mp hspaced
    obtain ⟨hv, hvalues⟩ := List.forall_mem_cons.mp hvalues
    obtain ⟨hr, hreads⟩ := List.forall_mem_cons.mp hreads
    obtain ⟨fuel, rfl⟩ := Nat.exists_eq_add_of_le' (show 2 ≤ fuel by omega)
    by_cases hes : es = []
    · subst hes
      simp only [List.map_cons, List.map_nil, commaSeparated, List.intercalate_singleton]
        at hfuel ⊢
      have hlast := separated_closing isClosing_bracket false he.after rest
      exact items_element he ha hv hr (by omega) rfl (items_nil hlast)
    · rw [List.map_cons, commaSeparated_cons (by simpa using hes)] at hfuel ⊢
      simp only [List.length_append, List.length_cons] at hfuel
      have hless : 2 * (commaSeparated (es.map Element.whole)).length + 1 < fuel + 1 := by omega
      have hothers := ih hes hspaced hvalues hreads false he.after hless
      rw [List.append_assoc]
      exact items_element he ha hv hr (by omega) rfl hothers

theorem members_append {ms : List Member} (hne : ms ≠ []) (hspaced : ∀ m ∈ ms, m.Spaced)
    (hreads : ∀ m ∈ ms, Reads fits room m.element.item m.element.text) (isFirst : Bool)
    (ha : Blanks a) (hfuel : 2 * (commaSeparated (ms.map Member.whole)).length + 1 < fuel)
    (rest : List Char) :
    members fits fuel room isFirst
        (a ++ (comma isFirst ++ (commaSeparated (ms.map Member.whole) ++ '\x7d' :: rest))) =
      .ok (ms.map Member.content, rest) := by
  induction ms generalizing fuel isFirst a with
  | nil => exact absurd rfl hne
  | cons m ms ih =>
    obtain ⟨hm, hspaced⟩ := List.forall_mem_cons.mp hspaced
    obtain ⟨hr, hreads⟩ := List.forall_mem_cons.mp hreads
    have hafter := hm.element.after
    obtain ⟨fuel, rfl⟩ := Nat.exists_eq_add_of_le' (show 2 ≤ fuel by omega)
    by_cases hms : ms = []
    · subst hms
      simp only [List.map_cons, List.map_nil, commaSeparated, List.intercalate_singleton]
        at hfuel ⊢
      have hlast := separated_closing isClosing_brace false hafter rest
      exact members_member hm ha hr (by omega) rfl (members_nil hlast)
    · rw [List.map_cons, commaSeparated_cons (by simpa using hms)] at hfuel ⊢
      simp only [List.length_append, List.length_cons] at hfuel
      have hless : 2 * (commaSeparated (ms.map Member.whole)).length + 1 < fuel + 1 := by omega
      have hothers := ih hms hspaced hreads false hafter hless
      rw [List.append_assoc]
      exact members_member hm ha hr (by omega) rfl hothers

theorem reads_array {es : List Element} (hne : es ≠ []) (hspaced : ∀ e ∈ es, e.Spaced)
    (hvalues : ∀ e ∈ es, Value fits room e.item e.text)
    (hreads : ∀ e ∈ es, Reads fits room e.item e.text) :
    Reads fits (room + 1) (.array (es.map (·.item)))
      ('[' :: (commaSeparated (es.map Element.whole) ++ [']'])) := by
  intro fuel rest hfuel hrest
  simp only [List.length_cons, List.length_append, List.length_nil] at hfuel
  obtain ⟨fuel, rfl⟩ := Nat.exists_eq_add_of_le' (show 1 ≤ fuel by omega)
  have hitems := @items_append fits fuel room [] es hne hspaced hvalues hreads true blanks_nil
    (by omega) rest
  simpa [comma] using value_array hitems

theorem reads_object {ms : List Member} (hne : ms ≠ []) (hspaced : ∀ m ∈ ms, m.Spaced)
    (hreads : ∀ m ∈ ms, Reads fits room m.element.item m.element.text) :
    Reads fits (room + 1) (.object (ms.map Member.content))
      ('\x7b' :: (commaSeparated (ms.map Member.whole) ++ ['\x7d'])) := by
  intro fuel rest hfuel hrest
  simp only [List.length_cons, List.length_append, List.length_nil] at hfuel
  obtain ⟨fuel, rfl⟩ := Nat.exists_eq_add_of_le' (show 1 ≤ fuel by omega)
  have hmembers := @members_append fits fuel room [] ms hne hspaced hreads true blanks_nil
    (by omega) rest
  simpa [comma] using value_object hmembers

theorem reads_emptyArray (hb : Blanks b) :
    Reads fits (room + 1) (.array []) ('[' :: (b ++ [']'])) := by
  intro fuel rest hfuel hrest
  simp only [List.length_cons, List.length_append, List.length_nil] at hfuel
  obtain ⟨fuel, rfl⟩ := Nat.exists_eq_add_of_le' (show 2 ≤ fuel by omega)
  have hlast := separated_closing isClosing_bracket true hb rest
  simpa using value_array (items_nil hlast)

theorem reads_emptyObject (hb : Blanks b) :
    Reads fits (room + 1) (.object []) ('\x7b' :: (b ++ ['\x7d'])) := by
  intro fuel rest hfuel hrest
  simp only [List.length_cons, List.length_append, List.length_nil] at hfuel
  obtain ⟨fuel, rfl⟩ := Nat.exists_eq_add_of_le' (show 2 ≤ fuel by omega)
  have hlast := separated_closing isClosing_brace true hb rest
  simpa using value_object (members_nil hlast)

/-- Every text of the grammar is read as the value it spells. -/
theorem reads_of_value {j : Json} (h : Value fits room j t) : Reads fits room j t := by
  induction h with
  | null =>
    exact reads_scalar rfl (by decide) (by decide) fun rest _ =>
      literal_append _ ['u', 'l', 'l'] rest
  | isTrue =>
    exact reads_scalar rfl (by decide) (by decide) fun rest _ =>
      literal_append _ ['r', 'u', 'e'] rest
  | isFalse =>
    exact reads_scalar rfl (by decide) (by decide) fun rest _ =>
      literal_append _ ['a', 'l', 's', 'e'] rest
  | positive hn hfits => exact reads_positive hn hfits
  | negative hn hfits =>
    exact reads_scalar rfl (by decide) (by decide) fun rest hrest =>
      number_append hn hfits hrest ['-']
  | @string room s t ht =>
    refine reads_scalar rfl (by decide) (by decide) fun rest _ => ?_
    have hbody : stringBody (t ++ '"' :: rest) = .ok (s, rest) :=
      stringBody_eq_ok_iff.mpr ⟨t, ht, rfl⟩
    simp [scalar, hbody, bind, Except.bind]
  | emptyArray hb => exact reads_emptyArray hb
  | array hne hspaced hvalues ih => exact reads_array hne hspaced hvalues ih
  | emptyObject hb => exact reads_emptyObject hb
  | object hne hspaced _ ih => exact reads_object hne hspaced ih

-- ---------------------------------------------------------------------------
-- Only texts of the grammar are read
-- ---------------------------------------------------------------------------

/-- What is left of a list, up to its closing bracket: nothing, or elements with
a comma in front of them if others came before. -/
def Listed (closing : Char) (isFirst isEmpty : Bool) (Text : List Char → Prop)
    (rest cs : List Char) : Prop :=
  ∃ b, Blanks b ∧ (isEmpty ∧ b ++ closing :: rest = cs ∨
    (isFirst → b = []) ∧ ∃ t, Text t ∧ b ++ (comma isFirst ++ (t ++ closing :: rest)) = cs)

/-- What the calls of the reader at this fuel take from the front of a text is
in the grammar. -/
structure Sound (fits : Magnitude → Bool) (fuel : Nat) : Prop where
  value : ∀ {room cs j rest}, value fits fuel room cs = .ok (j, rest) →
    ∃ b t, Blanks b ∧ Value fits room j t ∧ b ++ (t ++ rest) = cs
  items : ∀ {room isFirst cs found rest}, items fits fuel room isFirst cs = .ok (found, rest) →
    Listed ']' isFirst found.isEmpty (Items fits room found) rest cs
  members : ∀ {room isFirst cs found rest},
    members fits fuel room isFirst cs = .ok (found, rest) →
    Listed '\x7d' isFirst found.isEmpty (Members fits room found) rest cs

theorem value_sound_succ (h : Sound fits fuel) {j : Json}
    (hread : value fits (fuel + 1) room cs = .ok (j, rest)) :
    ∃ b t, Blanks b ∧ Value fits room j t ∧ b ++ (t ++ rest) = cs := by
  obtain ⟨b, cs', hb, hcs, hparts⟩ := of_value hread
  rcases hparts with ⟨room, cs', found, rfl, rfl, hitems, rfl⟩ |
    ⟨room, cs', found, rfl, rfl, hmembers, rfl⟩ | hscalar
  · obtain ⟨b', hb', ⟨hempty, rfl⟩ | ⟨hfirst, t, ht, rfl⟩⟩ := h.items hitems
    · obtain rfl := List.isEmpty_iff.mp hempty
      exact ⟨b, _, hb, .emptyArray hb', by simpa using hcs⟩
    · exact ⟨b, _, hb, .of_items ht, by simpa [comma, hfirst rfl] using hcs⟩
  · obtain ⟨b', hb', ⟨hempty, rfl⟩ | ⟨hfirst, t, ht, rfl⟩⟩ := h.members hmembers
    · obtain rfl := List.isEmpty_iff.mp hempty
      exact ⟨b, _, hb, .emptyObject hb', by simpa using hcs⟩
    · exact ⟨b, _, hb, .of_members ht, by simpa [comma, hfirst rfl] using hcs⟩
  · obtain ⟨t, ht, rfl⟩ := of_scalar hscalar
    exact ⟨b, t, hb, ht, hcs⟩

theorem items_sound_succ (h : Sound fits fuel) {isFirst : Bool} {found : List Json}
    (hread : items fits (fuel + 1) room isFirst cs = .ok (found, rest)) :
    Listed ']' isFirst found.isEmpty (Items fits room found) rest cs := by
  rcases of_items hread with ⟨hs, rfl⟩ | ⟨cs₁, cs₂, item, others, hs, hv, hi, rfl⟩
  · obtain ⟨b, hb, hcs⟩ := of_separated_false hs
    exact ⟨b, hb, .inl ⟨rfl, hcs⟩⟩
  · obtain ⟨a, b, ha, hfirst, hb, rfl⟩ := of_separated_true hs
    obtain ⟨b', t, hb', ht, rfl⟩ := h.value hv
    obtain ⟨after, hafter, ⟨hempty, rfl⟩ | ⟨-, t', ht', rfl⟩⟩ := h.items hi
    all_goals
      have hspaced : Element.Spaced ⟨b ++ b', item, t, after⟩ := ⟨blanks_append hb hb', hafter⟩
    · obtain rfl := List.isEmpty_iff.mp hempty
      exact ⟨a, ha, .inr ⟨hfirst, _, .one hspaced ht, by simp [Element.whole]⟩⟩
    · exact ⟨a, ha, .inr ⟨hfirst, _, .cons hspaced ht ht', by simp [Element.whole, comma]⟩⟩

theorem members_sound_succ (h : Sound fits fuel) {isFirst : Bool} {found : List (String × Json)}
    (hread : members fits (fuel + 1) room isFirst cs = .ok (found, rest)) :
    Listed '\x7d' isFirst found.isEmpty (Members fits room found) rest cs := by
  rcases of_members hread with
    ⟨hs, rfl⟩ | ⟨cs₁, cs₂, cs₃, name, member, others, hs, hn, hv, hm, rfl⟩
  · obtain ⟨b, hb, hcs⟩ := of_separated_false hs
    exact ⟨b, hb, .inl ⟨rfl, hcs⟩⟩
  · obtain ⟨a, b, ha, hfirst, hb, rfl⟩ := of_separated_true hs
    obtain ⟨nameText, afterName, hname, hafterName, rfl⟩ := memberName_eq_ok_iff.mp hn
    obtain ⟨b', t, hb', ht, rfl⟩ := h.value hv
    obtain ⟨after, hafter, ⟨hempty, rfl⟩ | ⟨-, t', ht', rfl⟩⟩ := h.members hm
    all_goals
      have hspaced : Member.Spaced ⟨b, name, nameText, afterName, ⟨b', member, t, after⟩⟩ :=
        ⟨hb, hname, hafterName, hb', hafter⟩
    · obtain rfl := List.isEmpty_iff.mp hempty
      exact ⟨a, ha, .inr ⟨hfirst, _, .one hspaced ht, by simp [Member.whole, Element.whole]⟩⟩
    · exact ⟨a, ha, .inr ⟨hfirst, _, .cons hspaced ht ht',
        by simp [Member.whole, Element.whole, comma]⟩⟩

theorem sound (fits : Magnitude → Bool) (fuel : Nat) : Sound fits fuel := by
  induction fuel with
  | zero =>
    constructor
    · intro room cs j rest h
      cases h
    · intro room isFirst cs found rest h
      cases h
    · intro room isFirst cs found rest h
      cases h
  | succ fuel ih => exact ⟨value_sound_succ ih, items_sound_succ ih, members_sound_succ ih⟩

-- ---------------------------------------------------------------------------
-- Documents
-- ---------------------------------------------------------------------------

theorem finish_eq_ok_iff {α : Type} {x y : α} : finish x cs = .ok y ↔ x = y ∧ Blanks cs := by
  have hskip : skipBlanks cs = [] ↔ Blanks cs := by
    simp only [skipBlanks, List.dropWhile_eq_nil_iff, isBlank_iff, Blanks]
  unfold finish
  split
  case isTrue h => simp [hskip.mp (List.isEmpty_iff.mp h)]
  case isFalse h => simp [mt (fun hb => List.isEmpty_iff.mpr (hskip.mpr hb)) h]

end Reader

/-- A whole document, however deep it is nested and whatever its numbers are. -/
def read (text : String) : Except Defect Json := do
  let cs := text.toList
  let (document, cs) ← Reader.value (fun _ => true) (Reader.enough cs) cs.length cs
  Reader.finish document cs

/-- A text is read just when it is a document, and as this document. -/
theorem read_eq_ok_iff {text : String} {j : Json} : read text = .ok j ↔ Document text j := by
  simp only [read, Reader.bind_eq_ok_iff, Prod.exists, Reader.finish_eq_ok_iff]
  constructor
  · rintro ⟨_, after, hvalue, rfl, hafter⟩
    obtain ⟨before, t, hbefore, ht, hcs⟩ := (Reader.sound _ _).value hvalue
    exact ⟨_, ⟨before, _, t, after⟩, ⟨hbefore, hafter⟩, rfl, ht,
      by simpa [Grammar.Element.whole] using hcs⟩
  · rintro ⟨room, ⟨before, _, t, after⟩, ⟨hbefore, hafter⟩, rfl, ht, htext⟩
    rw [← htext]
    refine ⟨_, after, ?_, rfl, hafter⟩
    rw [Grammar.Element.whole, List.append_assoc, Reader.value_append_of_blanks hbefore]
    have hends := @Reader.endsNumber_append _ [] hafter rfl
    rw [List.append_nil] at hends
    refine Reader.reads_of_value (ht.of_length_le ?_) _ _ ?_ hends
    · simp only [List.length_append]
      omega
    · simp only [Reader.enough, List.length_append]
      omega

/-- No text is two documents. -/
theorem Document.unique {text : String} {i j : Json} (hi : Document text i)
    (hj : Document text j) : i = j :=
  Except.ok.inj ((read_eq_ok_iff.mpr hi).symm.trans (read_eq_ok_iff.mpr hj))

end SecretAccess.Json
