import Mathlib
import SecretAccess.KeyFile
import SecretAccess.Proofs.Json.Objects

/-!
# The keys of a key file

The keys are the public keys of all records of a recognised type, in order. The
first of these that has no public key spoils the file, and no other record can.
So it matters neither which other records there are nor how the types are listed
(`parse_exact`).

The text is a JSON document within the limits of the reader. A number that is
too large or an array that is nested too deep spoils the file whatever record it
is in (`documents_refused`).
-/

namespace SecretAccess.KeyFile

open Json (Document DocumentWithin Magnitude Magnitude.inRange Reader.maxNesting)

/-- The last member of this name has this value. -/
def Holds (r : Record) (name : String) (value : Json) : Prop :=
  ∃ front back, r = front ++ (name, value) :: back ∧ ∀ m ∈ back, m.1 ≠ name

def Recognised (types : List String) (r : Record) : Prop :=
  ∃ type ∈ types, Holds r "type" (.string type)

def KeyOf (r : Record) (key : String) : Prop := Holds r "publickey" (.string key)

/-- The record has to have a key and has none. -/
def Broken (types : List String) (r : Record) : Prop :=
  Recognised types r ∧ ∀ key, ¬KeyOf r key

/-- So many records stand in front of the first that is broken. -/
def FirstBroken (types : List String) (records : List Record) (n : Nat) : Prop :=
  ∃ front r back, records = front ++ r :: back ∧ (∀ x ∈ front, ¬Broken types x) ∧
    Broken types r ∧ front.length = n

/-- The text is a JSON document within the limits of the reader, an array of
these records. -/
def Spells (text : String) (records : List Record) : Prop :=
  DocumentWithin Magnitude.inRange Reader.maxNesting text (.array (records.map .object))

-- ---------------------------------------------------------------------------
-- One record
-- ---------------------------------------------------------------------------

theorem lastMember_eq_some_iff {r : Record} {name : String} {value : Json} :
    lastMember name r = some value ↔ Holds r name value := by
  rw [lastMember, List.lookup_eq_some_iff]
  constructor
  · rintro ⟨back, front, hr, hback⟩
    refine ⟨front.reverse, back.reverse, ?_, fun m hm => ?_⟩
    · rw [← List.reverse_reverse r, hr]
      simp
    · exact fun he => by simpa [he] using hback m (List.mem_reverse.mp hm)
  · rintro ⟨front, back, rfl, hback⟩
    refine ⟨back.reverse, front.reverse, by simp, fun m hm => ?_⟩
    exact bne_iff_ne.mpr (hback m (List.mem_reverse.mp hm)).symm

theorem text?_eq_some_iff {r : Record} {name text : String} :
    text? name r = some text ↔ Holds r name (.string text) := by
  rw [text?, Option.bind_eq_some_iff, ← lastMember_eq_some_iff]
  constructor
  · rintro ⟨value, hv, hs⟩
    cases value <;> cases hs
    exact hv
  · exact fun h => ⟨_, h, rfl⟩

theorem KeyOf.unique {r : Record} {key key' : String} (h : KeyOf r key) (h' : KeyOf r key') :
    key = key' :=
  Option.some.inj ((text?_eq_some_iff.mpr h).symm.trans (text?_eq_some_iff.mpr h'))

theorem isRecognised_iff {types : List String} {r : Record} :
    isRecognised types r ↔ Recognised types r := by
  unfold isRecognised
  split
  case h_1 type ht =>
    rw [List.contains_iff_mem]
    constructor
    · exact fun hm => ⟨type, hm, text?_eq_some_iff.mp ht⟩
    · rintro ⟨type', hm, h⟩
      obtain rfl := Option.some.inj (ht.symm.trans (text?_eq_some_iff.mpr h))
      exact hm
  case h_2 ht =>
    constructor
    · exact fun h => absurd h Bool.false_ne_true
    · rintro ⟨type, -, h⟩
      cases ht.symm.trans (text?_eq_some_iff.mpr h)

instance (types : List String) : DecidablePred (Recognised types) :=
  fun _ => decidable_of_iff _ isRecognised_iff

theorem broken_iff {types : List String} {r : Record} :
    Broken types r ↔ isRecognised types r ∧ text? "publickey" r = none := by
  have hk : (∀ key, ¬KeyOf r key) ↔ text? "publickey" r = none := by
    simp only [Option.eq_none_iff_forall_ne_some, KeyOf, ← text?_eq_some_iff, ne_eq]
  rw [Broken, hk, isRecognised_iff]

instance (types : List String) : DecidablePred (Broken types) :=
  fun _ => decidable_of_iff _ broken_iff.symm

theorem recognised_congr {types types' : List String} (h : ∀ type, type ∈ types' ↔ type ∈ types)
    (r : Record) : Recognised types' r ↔ Recognised types r := by
  simp only [Recognised, h]

-- ---------------------------------------------------------------------------
-- One step
-- ---------------------------------------------------------------------------

section
variable {types : List String} {index : Nat} {r : Record} {rs records : List Record}

theorem keysFrom_of_not_recognised (h : ¬Recognised types r) :
    keysFrom types index (r :: rs) = keysFrom types (index + 1) rs := by
  rw [keysFrom, if_neg (mt isRecognised_iff.mp h)]

theorem keysFrom_of_keyOf {key : String} (h : Recognised types r) (hk : KeyOf r key) :
    keysFrom types index (r :: rs) = (keysFrom types (index + 1) rs).map (key :: ·) := by
  rw [keysFrom, if_pos (isRecognised_iff.mpr h), text?_eq_some_iff.mpr hk]

theorem keysFrom_of_broken (h : Broken types r) :
    keysFrom types index (r :: rs) = .error (.missingPublicKey index) := by
  obtain ⟨hr, hk⟩ := broken_iff.mp h
  rw [keysFrom, if_pos hr, hk]

theorem firstBroken_cons_of_broken {n : Nat} (h : Broken types r) :
    FirstBroken types (r :: rs) n ↔ n = 0 := by
  constructor
  · rintro ⟨_ | ⟨_, front⟩, x, back, he, hfront, -, rfl⟩
    · rfl
    · obtain ⟨rfl, -⟩ := List.cons.inj he
      exact absurd h (hfront _ List.mem_cons_self)
  · rintro rfl
    exact ⟨[], r, rs, rfl, by simp, h, rfl⟩

theorem firstBroken_cons_of_not_broken {n : Nat} (h : ¬Broken types r) :
    FirstBroken types (r :: rs) n ↔ ∃ k, FirstBroken types rs k ∧ n = k + 1 := by
  constructor
  · rintro ⟨_ | ⟨_, front⟩, x, back, he, hfront, hx, rfl⟩
    · obtain ⟨rfl, -⟩ := List.cons.inj he
      exact absurd hx h
    · obtain ⟨rfl, rfl⟩ := List.cons.inj he
      exact ⟨_, ⟨front, x, back, rfl, (List.forall_mem_cons.mp hfront).2, hx, rfl⟩, rfl⟩
  · rintro ⟨_, ⟨front, x, back, rfl, hfront, hx, rfl⟩, rfl⟩
    exact ⟨r :: front, x, back, rfl, List.forall_mem_cons.mpr ⟨h, hfront⟩, hx, rfl⟩

/-- A record is of no account, or counts and has a key, or is broken. -/
theorem record_cases (types : List String) (r : Record) :
    ¬Recognised types r ∨ (Recognised types r ∧ ∃ key, KeyOf r key) ∨ Broken types r := by
  by_cases h : Recognised types r
  · by_cases hk : ∃ key, KeyOf r key
    · exact .inr (.inl ⟨h, hk⟩)
    · exact .inr (.inr ⟨h, not_exists.mp hk⟩)
  · exact .inl h

-- ---------------------------------------------------------------------------
-- All records
-- ---------------------------------------------------------------------------

theorem map_eq_ok_iff {ε α β : Type} {f : α → β} {x : Except ε α} {b : β} :
    x.map f = .ok b ↔ ∃ a, x = .ok a ∧ f a = b := by
  cases x <;> simp [Except.map]

theorem map_eq_error_iff {ε α β : Type} {f : α → β} {x : Except ε α} {e : ε} :
    x.map f = .error e ↔ x = .error e := by
  cases x <;> simp [Except.map]

theorem keysFrom_eq_ok_iff {keys : List String} :
    keysFrom types index records = .ok keys ↔
      (records.filter (Recognised types ·)).Forall₂ KeyOf keys := by
  induction records generalizing index keys with
  | nil => simp [keysFrom, eq_comm]
  | cons r rs ih =>
    obtain h | ⟨h, key, hk⟩ | h := record_cases types r
    · rw [keysFrom_of_not_recognised h, ih, List.filter_cons_of_neg (by simpa using h)]
    · rw [keysFrom_of_keyOf h hk, List.filter_cons_of_pos (by simpa using h),
        List.forall₂_cons_left_iff, map_eq_ok_iff]
      constructor
      · rintro ⟨others, ho, rfl⟩
        exact ⟨key, others, hk, ih.mp ho, rfl⟩
      · rintro ⟨key', others, hk', ho, rfl⟩
        exact ⟨others, ih.mpr ho, by rw [hk.unique hk']⟩
    · rw [keysFrom_of_broken h, List.filter_cons_of_pos (by simpa using h.1),
        List.forall₂_cons_left_iff]
      constructor
      · exact fun he => by cases he
      · rintro ⟨key, _, hk, -⟩
        exact absurd hk (h.2 key)

theorem keysFrom_eq_error_iff {problem : Problem} :
    keysFrom types index records = .error problem ↔
      ∃ n, FirstBroken types records n ∧ problem = .missingPublicKey (index + n) := by
  induction records generalizing index with
  | nil => simp [keysFrom, FirstBroken]
  | cons r rs ih =>
    -- A record that is not broken only moves the index on.
    have hnext : ¬Broken types r →
        ((∃ n, FirstBroken types rs n ∧ problem = .missingPublicKey (index + 1 + n)) ↔
          ∃ n, FirstBroken types (r :: rs) n ∧ problem = .missingPublicKey (index + n)) := by
      intro hr
      simp only [firstBroken_cons_of_not_broken hr]
      constructor
      · rintro ⟨n, hn, rfl⟩
        exact ⟨n + 1, ⟨n, hn, rfl⟩, by rw [Nat.add_assoc, Nat.add_comm 1]⟩
      · rintro ⟨_, ⟨n, hn, rfl⟩, rfl⟩
        exact ⟨n, hn, by rw [Nat.add_assoc, Nat.add_comm 1]⟩
    obtain h | ⟨h, key, hk⟩ | h := record_cases types r
    · rw [keysFrom_of_not_recognised h, ih]
      exact hnext fun hb => h hb.1
    · rw [keysFrom_of_keyOf h hk, map_eq_error_iff, ih]
      exact hnext fun hb => hb.2 key hk
    · rw [keysFrom_of_broken h]
      simp [firstBroken_cons_of_broken h, eq_comm]

end

/-- What comes of the records of a key file: the keys of all that count, in
order, or the number of records in front of the first that is broken. -/
inductive Outcome (types : List String) (records : List Record) :
    Except Problem (List String) → Prop
  | keys {keys : List String} :
    (records.filter (Recognised types ·)).Forall₂ KeyOf keys → Outcome types records (.ok keys)
  | missing {n : Nat} :
    FirstBroken types records n → Outcome types records (.error (.missingPublicKey n))

theorem keysFrom_eq_iff {types : List String} {records : List Record}
    {outcome : Except Problem (List String)} :
    keysFrom types 0 records = outcome ↔ Outcome types records outcome := by
  cases outcome with
  | ok keys =>
    rw [keysFrom_eq_ok_iff]
    constructor
    · exact .keys
    · rintro ⟨h⟩
      exact h
  | error problem =>
    simp only [keysFrom_eq_error_iff, Nat.zero_add]
    constructor
    · rintro ⟨n, hn, rfl⟩
      exact .missing hn
    · intro h
      cases h with
      | missing hn => exact ⟨_, hn, rfl⟩

-- ---------------------------------------------------------------------------
-- Records that do not count
-- ---------------------------------------------------------------------------

/-- The same result, up to records that do not count. These move the index of
the first that is broken. -/
inductive SameOutcome (types : List String) (records records' : List Record) :
    Except Problem (List String) → Except Problem (List String) → Prop
  | keys (keys : List String) : SameOutcome types records records' (.ok keys) (.ok keys)
  | missing {front front' back back' : List Record} {r : Record} :
    records = front ++ r :: back → records' = front' ++ r :: back' →
    front.filter (Recognised types ·) = front'.filter (Recognised types ·) →
      SameOutcome types records records' (.error (.missingPublicKey front.length))
        (.error (.missingPublicKey front'.length))

variable {types : List String}

theorem Outcome.same {records records' : List Record} {outcome : Except Problem (List String)}
    (h : Outcome types records outcome)
    (hr : records.filter (Recognised types ·) = records'.filter (Recognised types ·)) :
    ∃ outcome', Outcome types records' outcome' ∧
      SameOutcome types records records' outcome outcome' := by
  cases h with
  | keys hk => exact ⟨_, .keys (hr ▸ hk), .keys _⟩
  | missing hn =>
    obtain ⟨front, r, back, rfl, hfront, hb, rfl⟩ := hn
    rw [List.filter_append, List.filter_cons_of_pos (by simpa using hb.1)] at hr
    obtain ⟨front', rest, rfl, hf, hrest⟩ := List.filter_eq_append_iff.mp hr.symm
    obtain ⟨skipped, back', rfl, hskipped, -, -⟩ := List.filter_eq_cons_iff.mp hrest
    have hf' : front.filter (Recognised types ·) =
        (front' ++ skipped).filter (Recognised types ·) := by
      rw [List.filter_append, hf, List.filter_eq_nil_iff.mpr hskipped, List.append_nil]
    -- What is broken counts, so nothing broken is in front here either.
    have hfront' : ∀ x ∈ front' ++ skipped, ¬Broken types x := by
      intro x hx hbx
      have hmem : x ∈ (front' ++ skipped).filter (Recognised types ·) :=
        List.mem_filter.mpr ⟨hx, decide_eq_true hbx.1⟩
      rw [← hf'] at hmem
      exact hfront x (List.mem_filter.mp hmem).1 hbx
    rw [← List.append_assoc]
    exact ⟨_, .missing ⟨front' ++ skipped, r, back', rfl, hfront', hb, rfl⟩, .missing rfl rfl hf'⟩

theorem Outcome.congr {types' : List String} {records : List Record}
    {outcome : Except Problem (List String)} (ht : ∀ type, type ∈ types' ↔ type ∈ types)
    (h : Outcome types records outcome) : Outcome types' records outcome := by
  have hr := recognised_congr ht
  cases h with
  | keys hk =>
    refine .keys ?_
    simpa only [hr] using hk
  | missing hn =>
    refine .missing ?_
    simpa only [FirstBroken, Broken, hr] using hn

-- ---------------------------------------------------------------------------
-- Texts
-- ---------------------------------------------------------------------------

theorem parse_of_spells {text : String} {records : List Record} (h : Spells text records) :
    parse types text = keysFrom types 0 records := by
  rw [parse, Json.parseObjects_eq_ok_iff.mpr h]

theorem parse_eq_malformed_iff {text : String} :
    (∃ d, parse types text = .error (.malformed d)) ↔ ¬∃ records, Spells text records := by
  constructor
  · rintro ⟨d, hd⟩ ⟨records, hr⟩
    rw [parse_of_spells hr, keysFrom_eq_iff] at hd
    cases hd
  · intro h
    cases hp : Json.parseObjects text with
    | ok records => exact absurd ⟨records, Json.parseObjects_eq_ok_iff.mp hp⟩ h
    | error d => exact ⟨d, by rw [parse, hp]⟩

/-- A text is refused just when it is no array of objects, within the limits of
the reader. Else the public keys of all records of recognised types come out, or
the index of the first that has none. Other records count for nothing but this
index, and the recognised types are a set. -/
theorem parse_exact (types : List String) (text : String) :
    ((∃ d, parse types text = .error (.malformed d)) ↔ ¬∃ records, Spells text records) ∧
      (∀ records, Spells text records →
        (∀ outcome, parse types text = outcome ↔ Outcome types records outcome) ∧
          ∀ text' records', Spells text' records' →
            records.filter (Recognised types ·) = records'.filter (Recognised types ·) →
              SameOutcome types records records' (parse types text) (parse types text')) ∧
      ∀ types', (∀ type, type ∈ types' ↔ type ∈ types) → parse types' text = parse types text := by
  refine ⟨parse_eq_malformed_iff, fun records hr => ⟨fun outcome => ?_, ?_⟩, fun types' ht => ?_⟩
  · rw [parse_of_spells hr, keysFrom_eq_iff]
  · intro text' records' hr' hf
    rw [parse_of_spells hr, parse_of_spells hr']
    obtain ⟨outcome, ho, hs⟩ := (keysFrom_eq_iff.mp rfl).same hf
    rwa [keysFrom_eq_iff.mpr ho]
  · cases hp : Json.parseObjects text with
    | error d => rw [parse, parse, hp]
    | ok records =>
      have hr : Spells text records := Json.parseObjects_eq_ok_iff.mp hp
      rw [parse_of_spells hr, parse_of_spells hr]
      exact keysFrom_eq_iff.mpr ((keysFrom_eq_iff.mp rfl).congr ht)

/-- Last values count, so the second record is of a recognised type. -/
def mixedRecords : List Record :=
  [[("type", .null)], [("type", .string "ssh"), ("type", .string "age")]]

def mixedText : String :=
  "[\x7b\"type\":null\x7d,\x7b\"type\":\"ssh\",\"type\":\"age\"\x7d]"

theorem mixedText_missing :
    Spells mixedText mixedRecords ∧
      parse ["age"] mixedText = .error (.missingPublicKey 1) := by
  have hs : Spells mixedText mixedRecords := Json.parseObjects_eq_ok_iff.mp (by cbv)
  have hn : FirstBroken ["age"] mixedRecords 1 :=
    ⟨mixedRecords.take 1, _, [], rfl, by decide, by decide, rfl⟩
  obtain ⟨-, hread, -⟩ := parse_exact ["age"] mixedText
  exact ⟨hs, ((hread _ hs).1 _).mpr (.missing hn)⟩

-- ---------------------------------------------------------------------------
-- Limits
-- ---------------------------------------------------------------------------

/-- Arrays in an array, `n` levels of them. -/
def nested : Nat → Json
  | 0 => .array []
  | n + 1 => .array [nested n]

def nestedText : Nat → List Char
  | 0 => ['[', ']']
  | n + 1 => '[' :: (nestedText n ++ [']'])

/-- A key file with one record, which holds nested arrays and is not recognised. -/
def nestedFile (n : Nat) : String := "[\x7b\"a\":" ++ String.ofList (nestedText n) ++ "\x7d]"

section
open Json.Grammar

theorem value_nested {fits : Magnitude → Bool} (n : Nat) :
    Value fits (n + 1) (nested n) (nestedText n) := by
  induction n with
  | zero => exact .emptyArray blanks_nil
  | succ n ih =>
    have hs : Element.Spaced ⟨[], nested n, nestedText n, []⟩ := ⟨blanks_nil, blanks_nil⟩
    simpa [Element.whole, nested, nestedText] using Value.of_items (.one hs ih)

/-- The file is a document at any depth. -/
theorem document_nestedFile (n : Nat) :
    Document (nestedFile n) (.array [.object [("a", nested n)]]) := by
  let element : Element := ⟨[], nested n, nestedText n, []⟩
  let member : Member := ⟨[], "a", ['a'], [], element⟩
  let record : Element := ⟨[], .object [("a", nested n)], '\x7b' :: (member.whole ++ ['\x7d']), []⟩
  have hname : StringText "a".toList ['a'] :=
    .cons (.plain (by decide) (by decide) (by decide)) .nil
  have hm : member.Spaced := ⟨blanks_nil, hname, blanks_nil, ⟨blanks_nil, blanks_nil⟩⟩
  have hr : record.Spaced := ⟨blanks_nil, blanks_nil⟩
  have hrecord : Value (fun _ => true) (n + 2) record.item record.text :=
    .of_members (.one hm (value_nested n))
  refine ⟨n + 3, ⟨[], _, _, []⟩, ⟨blanks_nil, blanks_nil⟩, rfl, .of_items (.one hr hrecord), ?_⟩
  simp [Element.whole, Member.whole, record, member, element, quoted, nestedFile]

theorem lt_of_value_nested {fits : Magnitude → Bool} {room n : Nat} {t : List Char}
    (h : Value fits room (nested n) t) : n < room := by
  induction n generalizing room t with
  | zero =>
    obtain ⟨k, rfl, -⟩ := exists_room_of_value_array h
    exact Nat.succ_pos k
  | succ n ih =>
    obtain ⟨k, rfl, hv⟩ := exists_room_of_value_array h
    obtain ⟨_, hn⟩ := hv _ List.mem_cons_self
    exact Nat.succ_lt_succ (ih hn)

theorem nestedFile_refused (types : List String) {n : Nat} (h : 125 ≤ n) :
    ∃ d, parse types (nestedFile n) = .error (.malformed d) := by
  rw [parse_eq_malformed_iff]
  rintro ⟨records, hr⟩
  have hj := hr.document.unique (document_nestedFile n)
  rw [Spells, hj] at hr
  obtain ⟨e, -, he, hfile, -⟩ := hr
  rw [he] at hfile
  obtain ⟨room, hroom, hrecords⟩ := exists_room_of_value_array hfile
  obtain ⟨_, hrecord⟩ := hrecords _ List.mem_cons_self
  obtain ⟨room', hroom', hmembers⟩ := exists_room_of_value_object hrecord
  obtain ⟨_, hmember⟩ := hmembers _ List.mem_cons_self
  have hn : n < room' := lt_of_value_nested hmember
  simp only [Reader.maxNesting] at hroom
  omega

end

/-- Two documents beyond the limits, with one record each that is not recognised. -/
theorem documents_refused :
    Document "[\x7b\"n\":1e400\x7d]" (.array [.object [("n", .number "1e400")]]) ∧
      parse ["age"] "[\x7b\"n\":1e400\x7d]" = .error (.malformed .malformed) ∧
      Document (nestedFile 125) (.array [.object [("a", nested 125)]]) ∧
      ∃ d, parse ["age"] (nestedFile 125) = .error (.malformed d) :=
  ⟨Json.read_eq_ok_iff.mp (by cbv), by decide +kernel, document_nestedFile 125,
    nestedFile_refused ["age"] (Nat.le_refl 125)⟩

end SecretAccess.KeyFile
