import SecretAccess.Json.Number
import SecretAccess.Json.Printer

/-!
# The grammar of JSON

What a strict JSON document is, and which text spells it. There may be blanks
around every element of a container and nowhere else, a character of a string
may be spelled in more than one way, and of a number the spelling is all that
counts. A grammar has a bound on nesting and may leave numbers out; whether a
name stands twice in an object is not its concern.

Every printed document is in the grammar (`value_prettyAt`).
-/

namespace SecretAccess.Json

namespace Grammar

def Blanks (cs : List Char) : Prop := ∀ c ∈ cs, c = ' ' ∨ c = '\n' ∨ c = '\t' ∨ c = '\r'

-- ---------------------------------------------------------------------------
-- Strings
-- ---------------------------------------------------------------------------

inductive HexDigit : Char → Nat → Prop
  | decimal {d : Nat} : d < 10 → HexDigit (Char.ofNat (48 + d)) d
  | lower {d : Nat} : d < 6 → HexDigit (Char.ofNat (97 + d)) (10 + d)
  | upper {d : Nat} : d < 6 → HexDigit (Char.ofNat (65 + d)) (10 + d)

/-- A unit of sixteen bits in four hexadecimal digits. -/
inductive HexUnit : Nat → List Char → Prop
  | digits {a b c d : Char} {i j k l : Nat} :
    HexDigit a i → HexDigit b j → HexDigit c k → HexDigit d l →
      HexUnit (((i * 16 + j) * 16 + k) * 16 + l) [a, b, c, d]

/-- The letters that may follow a backslash, and what they stand for. -/
def letterEscapes : List (Char × Char) :=
  [('"', '"'), ('\\', '\\'), ('/', '/'), ('b', '\x08'), ('f', '\x0c'), ('n', '\n'), ('r', '\r'),
    ('t', '\t')]

/-- The surrogates that stand for a character beyond the first plane. -/
def highSurrogate (c : Char) : Nat := 0xD800 + (c.toNat - 0x10000) / 0x400

def lowSurrogate (c : Char) : Nat := 0xDC00 + (c.toNat - 0x10000) % 0x400

/-- The spellings of a character in a string. -/
inductive CharText (c : Char) : List Char → Prop
  | plain : 32 ≤ c.toNat → c ≠ '"' → c ≠ '\\' → CharText c [c]
  | letter {l : Char} : (l, c) ∈ letterEscapes → CharText c ['\\', l]
  | unit {t : List Char} : HexUnit c.toNat t → CharText c ('\\' :: 'u' :: t)
  | pair {t u : List Char} : 0x10000 ≤ c.toNat → HexUnit (highSurrogate c) t →
    HexUnit (lowSurrogate c) u → CharText c ('\\' :: 'u' :: (t ++ '\\' :: 'u' :: u))

inductive StringText : List Char → List Char → Prop
  | nil : StringText [] []
  | cons {c : Char} {s t ts : List Char} :
    CharText c t → StringText s ts → StringText (c :: s) (t ++ ts)

def quoted (t : List Char) : List Char := '"' :: (t ++ ['"'])

-- ---------------------------------------------------------------------------
-- Numbers
-- ---------------------------------------------------------------------------

def Digits (ds : List Char) : Prop := ds ≠ [] ∧ ∀ c ∈ ds, c.isDigit

structure Exponent where
  marker : Char
  sign : List Char
  digits : List Char

namespace Exponent

structure WellFormed (e : Exponent) : Prop where
  marker : e.marker = 'e' ∨ e.marker = 'E'
  sign : e.sign = [] ∨ e.sign = ['+'] ∨ e.sign = ['-']
  digits : Digits e.digits

def text (e : Exponent) : List Char := e.marker :: (e.sign ++ e.digits)

def value (e : Exponent) : Int :=
  let size := e.digits.foldl (fun n c => n * 10 + digitValue c) 0
  if e.sign = ['-'] then -(size : Int) else size

end Exponent

/-- A number without its sign. It has no decimal point if it has no decimals. -/
structure Numeral where
  whole : List Char
  decimals : List Char
  exponent : Option Exponent

namespace Numeral

/-- No zero stands in front of other whole digits. -/
structure WellFormed (n : Numeral) : Prop where
  whole : Digits n.whole
  leading : ∀ ds, n.whole = '0' :: ds → ds = []
  decimals : ∀ c ∈ n.decimals, c.isDigit
  exponent : ∀ e ∈ n.exponent, e.WellFormed

def decimalText (n : Numeral) : List Char :=
  if n.decimals = [] then [] else '.' :: n.decimals

def exponentText (n : Numeral) : List Char := (n.exponent.map Exponent.text).getD []

def text (n : Numeral) : List Char := n.whole ++ n.decimalText ++ n.exponentText

def size (n : Numeral) : Magnitude :=
  magnitude n.whole n.decimals ((n.exponent.map Exponent.value).getD 0)

end Numeral

-- ---------------------------------------------------------------------------
-- Values
-- ---------------------------------------------------------------------------

/-- An item of an array with the blanks around it. -/
structure Element where
  before : List Char
  item : Json
  text : List Char
  after : List Char

namespace Element

structure Spaced (e : Element) : Prop where
  before : Blanks e.before
  after : Blanks e.after

def whole (e : Element) : List Char := e.before ++ e.text ++ e.after

end Element

/-- A member of an object with the blanks around its name and its value. -/
structure Member where
  before : List Char
  name : String
  nameText : List Char
  afterName : List Char
  element : Element

namespace Member

structure Spaced (m : Member) : Prop where
  before : Blanks m.before
  name : StringText m.name.toList m.nameText
  afterName : Blanks m.afterName
  element : m.element.Spaced

def whole (m : Member) : List Char :=
  m.before ++ quoted m.nameText ++ m.afterName ++ ':' :: m.element.whole

def content (m : Member) : String × Json := (m.name, m.element.item)

end Member

def commaSeparated (texts : List (List Char)) : List Char := [','].intercalate texts

/-- The texts of a value, with `room` levels of nesting at most and all numbers
in range. -/
inductive Value (fits : Magnitude → Bool) : Nat → Json → List Char → Prop
  | null {room : Nat} : Value fits room .null ['n', 'u', 'l', 'l']
  | isTrue {room : Nat} : Value fits room (.bool true) ['t', 'r', 'u', 'e']
  | isFalse {room : Nat} : Value fits room (.bool false) ['f', 'a', 'l', 's', 'e']
  | positive {room : Nat} {n : Numeral} : n.WellFormed → fits n.size →
    Value fits room (.number (String.ofList n.text)) n.text
  | negative {room : Nat} {n : Numeral} : n.WellFormed → fits n.size →
    Value fits room (.number (String.ofList ('-' :: n.text))) ('-' :: n.text)
  | string {room : Nat} {s : String} {t : List Char} :
    StringText s.toList t → Value fits room (.string s) (quoted t)
  | emptyArray {room : Nat} {blanks : List Char} :
    Blanks blanks → Value fits (room + 1) (.array []) ('[' :: (blanks ++ [']']))
  | array {room : Nat} {es : List Element} : es ≠ [] → (∀ e ∈ es, e.Spaced) →
    (∀ e ∈ es, Value fits room e.item e.text) →
      Value fits (room + 1) (.array (es.map (·.item)))
        ('[' :: (commaSeparated (es.map Element.whole) ++ [']']))
  | emptyObject {room : Nat} {blanks : List Char} :
    Blanks blanks → Value fits (room + 1) (.object []) ('\x7b' :: (blanks ++ ['\x7d']))
  | object {room : Nat} {ms : List Member} : ms ≠ [] → (∀ m ∈ ms, m.Spaced) →
    (∀ m ∈ ms, Value fits room m.element.item m.element.text) →
      Value fits (room + 1) (.object (ms.map Member.content))
        ('\x7b' :: (commaSeparated (ms.map Member.whole) ++ ['\x7d']))

-- ---------------------------------------------------------------------------
-- Items and members in a row
-- ---------------------------------------------------------------------------

theorem blanks_nil : Blanks [] := by simp [Blanks]

theorem blanks_append {a b : List Char} (ha : Blanks a) (hb : Blanks b) : Blanks (a ++ b) :=
  List.forall_mem_append.mpr ⟨ha, hb⟩

theorem commaSeparated_cons {text : List Char} {texts : List (List Char)} (h : texts ≠ []) :
    commaSeparated (text :: texts) = text ++ ',' :: commaSeparated texts := by
  rw [commaSeparated, List.intercalate_cons_of_ne_nil h]
  simp [commaSeparated]

variable {fits : Magnitude → Bool} {room : Nat}

/-- One or more items as they stand between the brackets of an array. -/
def Items (fits : Magnitude → Bool) (room : Nat) (items : List Json) (text : List Char) : Prop :=
  ∃ es : List Element, es ≠ [] ∧ (∀ e ∈ es, e.Spaced) ∧
    (∀ e ∈ es, Value fits room e.item e.text) ∧ es.map (·.item) = items ∧
      commaSeparated (es.map Element.whole) = text

/-- One or more members as they stand between the brackets of an object. -/
def Members (fits : Magnitude → Bool) (room : Nat) (members : List (String × Json))
    (text : List Char) : Prop :=
  ∃ ms : List Member, ms ≠ [] ∧ (∀ m ∈ ms, m.Spaced) ∧
    (∀ m ∈ ms, Value fits room m.element.item m.element.text) ∧ ms.map Member.content = members ∧
      commaSeparated (ms.map Member.whole) = text

theorem Items.one {e : Element} (hs : e.Spaced) (hv : Value fits room e.item e.text) :
    Items fits room [e.item] e.whole :=
  ⟨[e], by simp, by simpa using hs, by simpa using hv, rfl, by simp [commaSeparated]⟩

theorem Items.cons {e : Element} {items : List Json} {text : List Char} (hs : e.Spaced)
    (hv : Value fits room e.item e.text) (h : Items fits room items text) :
    Items fits room (e.item :: items) (e.whole ++ ',' :: text) := by
  obtain ⟨es, hne, hspaced, hvalues, rfl, rfl⟩ := h
  refine ⟨e :: es, List.cons_ne_nil _ _, List.forall_mem_cons.mpr ⟨hs, hspaced⟩,
    List.forall_mem_cons.mpr ⟨hv, hvalues⟩, rfl, ?_⟩
  rw [List.map_cons, commaSeparated_cons (by simpa using hne)]

theorem Members.one {m : Member} (hs : m.Spaced)
    (hv : Value fits room m.element.item m.element.text) :
    Members fits room [m.content] m.whole :=
  ⟨[m], by simp, by simpa using hs, by simpa using hv, rfl, by simp [commaSeparated]⟩

theorem Members.cons {m : Member} {members : List (String × Json)} {text : List Char}
    (hs : m.Spaced) (hv : Value fits room m.element.item m.element.text)
    (h : Members fits room members text) :
    Members fits room (m.content :: members) (m.whole ++ ',' :: text) := by
  obtain ⟨ms, hne, hspaced, hvalues, rfl, rfl⟩ := h
  refine ⟨m :: ms, List.cons_ne_nil _ _, List.forall_mem_cons.mpr ⟨hs, hspaced⟩,
    List.forall_mem_cons.mpr ⟨hv, hvalues⟩, rfl, ?_⟩
  rw [List.map_cons, commaSeparated_cons (by simpa using hne)]

theorem Value.of_items {items : List Json} {text : List Char} (h : Items fits room items text) :
    Value fits (room + 1) (.array items) ('[' :: (text ++ [']'])) := by
  obtain ⟨es, hne, hspaced, hvalues, rfl, rfl⟩ := h
  exact .array hne hspaced hvalues

theorem Value.of_members {members : List (String × Json)} {text : List Char}
    (h : Members fits room members text) :
    Value fits (room + 1) (.object members) ('\x7b' :: (text ++ ['\x7d'])) := by
  obtain ⟨ms, hne, hspaced, hvalues, rfl, rfl⟩ := h
  exact .object hne hspaced hvalues

theorem length_le_of_mem {text : List Char} {texts : List (List Char)} (h : text ∈ texts) :
    text.length ≤ (commaSeparated texts).length := by
  induction texts with
  | nil => cases h
  | cons first texts ih =>
    by_cases hne : texts = []
    · simp_all [commaSeparated]
    · rw [commaSeparated_cons hne, List.length_append, List.length_cons]
      rcases List.mem_cons.mp h with rfl | h
      · omega
      · have := ih h
        omega

/-- A value is nested no deeper than its text is long. -/
theorem Value.of_length_le {j : Json} {text : List Char} (h : Value fits room j text)
    {room' : Nat} (hle : text.length ≤ room') : Value fits room' j text := by
  induction h generalizing room' with
  | null => exact .null
  | isTrue => exact .isTrue
  | isFalse => exact .isFalse
  | positive hn hfits => exact .positive hn hfits
  | negative hn hfits => exact .negative hn hfits
  | string ht => exact .string ht
  | emptyArray hb =>
    obtain ⟨room', rfl⟩ := Nat.exists_eq_add_of_le' (Nat.le_trans (Nat.succ_pos _) hle)
    exact .emptyArray hb
  | array hne hspaced _ ih =>
    rw [List.length_cons, List.length_append] at hle
    obtain ⟨room', rfl⟩ := Nat.exists_eq_add_of_le' (show 1 ≤ room' by omega)
    refine .array hne hspaced fun e he => ih e he ?_
    have := length_le_of_mem (List.mem_map_of_mem (f := Element.whole) he)
    simp only [Element.whole, List.length_append] at this
    omega
  | emptyObject hb =>
    obtain ⟨room', rfl⟩ := Nat.exists_eq_add_of_le' (Nat.le_trans (Nat.succ_pos _) hle)
    exact .emptyObject hb
  | object hne hspaced _ ih =>
    rw [List.length_cons, List.length_append] at hle
    obtain ⟨room', rfl⟩ := Nat.exists_eq_add_of_le' (show 1 ≤ room' by omega)
    refine .object hne hspaced fun m hm => ih m hm ?_
    have := length_le_of_mem (List.mem_map_of_mem (f := Member.whole) hm)
    simp only [Member.whole, Element.whole, List.length_append, List.length_cons] at this
    omega

end Grammar

/-- The text is a strict JSON document, however deep it is nested and whatever
its numbers are. -/
def Document (text : String) (j : Json) : Prop :=
  ∃ room, ∃ e : Grammar.Element, e.Spaced ∧ e.item = j ∧
    Grammar.Value (fun _ => true) room e.item e.text ∧ e.whole = text.toList

-- ---------------------------------------------------------------------------
-- Printed documents
-- ---------------------------------------------------------------------------

/-- The documents that are printed. A number counts something, and no object
has two members of one name. -/
inductive Canonical : Json → Prop
  | null : Canonical .null
  | bool (b : Bool) : Canonical (.bool b)
  | number (n : Nat) : Canonical (.ofNat n)
  | string (s : String) : Canonical (.string s)
  | array {items : List Json} (h : ∀ item ∈ items, Canonical item) : Canonical (.array items)
  | object {members : List (String × Json)} (names : (members.map (·.1)).Nodup)
      (h : ∀ m ∈ members, Canonical m.2) : Canonical (.object members)

namespace Grammar

theorem hexDigit_hexDigit {n : Nat} (h : n < 16) : HexDigit (hexDigit n) n := by
  by_cases hn : n < 10
  · rw [hexDigit, if_pos hn]
    exact .decimal hn
  · obtain ⟨d, rfl⟩ := Nat.exists_eq_add_of_le (show 10 ≤ n by omega)
    rw [hexDigit, if_neg hn, ← Nat.add_assoc]
    exact .lower (by omega)

theorem charText_escapeChar (c : Char) : CharText c (escapeChar c) := by
  unfold escapeChar
  split
  case h_8 hquote hslash _ _ _ _ _ =>
    split
    case isTrue hc =>
      have hunit := HexUnit.digits (hexDigit_hexDigit (show 0 < 16 by decide))
        (hexDigit_hexDigit (show 0 < 16 by decide))
        (hexDigit_hexDigit (show c.toNat / 16 < 16 by omega))
        (hexDigit_hexDigit (show c.toNat % 16 < 16 by omega))
      rw [show ((0 * 16 + 0) * 16 + c.toNat / 16) * 16 + c.toNat % 16 = c.toNat by omega] at hunit
      exact .unit hunit
    case isFalse hc => exact .plain (Nat.le_of_not_lt hc) hquote hslash
  all_goals exact .letter (by decide)

theorem stringText_escaped (s : List Char) : StringText s (s.flatMap escapeChar) := by
  induction s with
  | nil => exact .nil
  | cons c s ih =>
    rw [List.flatMap_cons]
    exact .cons (charText_escapeChar c) ih

theorem toList_quote (s : String) : (quote s).toList = quoted (s.toList.flatMap escapeChar) := by
  simp [quote, quoted]

theorem blanks_newline (depth : Nat) : Blanks (newline depth).toList := by
  simp [newline, Blanks, List.mem_replicate]

theorem head_toDigits_ne_zero {n : Nat} (h : 0 < n) :
    ∃ c cs, Nat.toDigits 10 n = c :: cs ∧ c ≠ '0' := by
  have hdigit : ∀ d < 10, 0 < d → d.digitChar ≠ '0' := by decide
  induction n using Nat.strongRecOn with
  | ind n ih =>
    by_cases hn : n < 10
    · exact ⟨n.digitChar, [], Nat.toDigits_of_lt_base hn, hdigit n hn h⟩
    · obtain ⟨c, cs, hcs, hc⟩ := ih (n / 10) (by omega) (by omega)
      exact ⟨c, cs ++ [(n % 10).digitChar],
        by rw [Nat.toDigits_of_base_le (by decide) (by omega), hcs, List.cons_append], hc⟩

/-- A whole number is spelled by its digits. -/
def Numeral.ofNat (n : Nat) : Numeral := ⟨Nat.toDigits 10 n, [], none⟩

theorem Numeral.wellFormed_ofNat (n : Nat) : (ofNat n).WellFormed where
  whole := ⟨Nat.toDigits_ne_nil, fun _ hc => Nat.isDigit_of_mem_toDigits (by decide) (by decide) hc⟩
  leading ds hds := by
    rcases Nat.eq_zero_or_pos n with rfl | hn
    · exact (List.cons.inj hds).2.symm
    · obtain ⟨c, cs, hcs, hc⟩ := head_toDigits_ne_zero hn
      exact absurd (List.cons.inj (hcs.symm.trans hds)).1 hc
  decimals := by simp [ofNat]
  exponent := by simp [ofNat]

theorem Numeral.text_ofNat (n : Nat) : (ofNat n).text = n.repr.toList := by
  simp [text, ofNat, decimalText, exponentText, Nat.repr_eq_ofList_toDigits]

/-- An item as it is printed: on a line of its own, with nothing behind it. -/
def printedElement (depth : Nat) (item : Json) (after : List Char) : Element :=
  ⟨(newline depth).toList, item, (prettyAt depth item).toList, after⟩

def printedMember (depth : Nat) (name : String) (value : Json) (after : List Char) : Member :=
  ⟨(newline depth).toList, name, name.toList.flatMap escapeChar, [],
    ⟨[' '], value, (prettyAt depth value).toList, after⟩⟩

theorem spaced_printedMember (depth : Nat) (name : String) (value : Json) {after : List Char}
    (h : Blanks after) : (printedMember depth name value after).Spaced :=
  ⟨blanks_newline depth, stringText_escaped _, blanks_nil, by simp [Blanks, printedMember], h⟩

/-- The items of a printed array are in the grammar if each of them is. -/
theorem items_pretty {item : Json} {items : List Json} {depth : Nat}
    (h : ∀ j ∈ item :: items, Value fits room j (prettyAt depth j).toList) (last : Nat) :
    Items fits room (item :: items) ((newline depth).toList ++ (prettyAt depth item).toList ++
      (prettyItems depth items).toList ++ (newline last).toList) := by
  have hb := blanks_newline depth
  induction items generalizing item with
  | nil =>
    have hv := h item List.mem_cons_self
    have hone := Items.one (e := printedElement depth item (newline last).toList)
      ⟨hb, blanks_newline last⟩ hv
    simpa [prettyItems, Element.whole, printedElement] using hone
  | cons next items ih =>
    obtain ⟨hv, h⟩ := List.forall_mem_cons.mp h
    have hcons := Items.cons (e := printedElement depth item []) ⟨hb, blanks_nil⟩ hv (ih h)
    simpa [prettyItems, Element.whole, printedElement] using hcons

theorem members_pretty {name : String} {value : Json} {members : List (String × Json)}
    {depth : Nat}
    (h : ∀ m ∈ (name, value) :: members, Value fits room m.2 (prettyAt depth m.2).toList)
    (last : Nat) :
    Members fits room ((name, value) :: members) ((newline depth).toList ++ (quote name).toList ++
      ':' :: ' ' :: (prettyAt depth value).toList ++ (prettyMembers depth members).toList ++
        (newline last).toList) := by
  induction members generalizing name value with
  | nil =>
    have hv := h (name, value) List.mem_cons_self
    have hone := Members.one (spaced_printedMember depth name value (blanks_newline last)) hv
    simpa [prettyMembers, Member.whole, Member.content, Element.whole, toList_quote,
      printedMember] using hone
  | cons next members ih =>
    obtain ⟨hv, h⟩ := List.forall_mem_cons.mp h
    have hcons := Members.cons (spaced_printedMember depth name value blanks_nil) hv (ih h)
    simpa [prettyMembers, Member.whole, Member.content, Element.whole, toList_quote,
      printedMember] using hcons

/-- A printed value is in the grammar. The size of the document bounds its
nesting. -/
theorem value_prettyAt {j : Json} (h : Canonical j) {room : Nat} (hroom : sizeOf j ≤ room)
    (depth : Nat) : Value (fun _ => true) room j (prettyAt depth j).toList := by
  induction h generalizing depth room with
  | null => simpa [prettyAt] using Value.null
  | bool b =>
    cases b
    · simpa [prettyAt] using Value.isFalse
    · simpa [prettyAt] using Value.isTrue
  | number n =>
    have hn := @Value.positive (fun _ => true) room _ (Numeral.wellFormed_ofNat n)
    rw [Numeral.text_ofNat, String.ofList_toList] at hn
    exact hn rfl
  | string s =>
    rw [prettyAt, toList_quote]
    exact .string (stringText_escaped _)
  | @array items h ih =>
    rw [array.sizeOf_spec] at hroom
    obtain ⟨room, rfl⟩ := Nat.exists_eq_add_of_le' (show 1 ≤ room by omega)
    have hitems : ∀ j ∈ items, Value (fun _ => true) room j (prettyAt (depth + 1) j).toList := by
      intro j hj
      have := List.sizeOf_lt_of_mem hj
      exact ih j hj (by omega) _
    cases items with
    | nil => simpa [prettyAt] using Value.emptyArray blanks_nil
    | cons item items =>
      simpa [prettyAt] using Value.of_items (items_pretty hitems depth)
  | @object members names h ih =>
    rw [object.sizeOf_spec] at hroom
    obtain ⟨room, rfl⟩ := Nat.exists_eq_add_of_le' (show 1 ≤ room by omega)
    have hmembers : ∀ m ∈ members,
        Value (fun _ => true) room m.2 (prettyAt (depth + 1) m.2).toList := by
      intro m hm
      have := List.sizeOf_lt_of_mem hm
      rw [Prod.mk.sizeOf_spec] at this
      exact ih m hm (by omega) _
    rcases members with _ | ⟨⟨name, value⟩, members⟩
    · simpa [prettyAt] using Value.emptyObject blanks_nil
    · simpa [prettyAt] using Value.of_members (members_pretty hmembers depth)

end Grammar

/-- What is printed is a document, also with blanks behind it. -/
theorem document_pretty_append {j : Json} (h : Canonical j) {blanks : String}
    (hblanks : Grammar.Blanks blanks.toList) : Document (j.pretty ++ blanks) j :=
  ⟨sizeOf j, ⟨[], j, j.pretty.toList, blanks.toList⟩, ⟨Grammar.blanks_nil, hblanks⟩, rfl,
    Grammar.value_prettyAt h (Nat.le_refl _) 0, by simp [Grammar.Element.whole]⟩

end SecretAccess.Json
