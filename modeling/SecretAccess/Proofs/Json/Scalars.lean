import SecretAccess.Json.Reader
import SecretAccess.Proofs.Json.Grammar

/-!
# Reading strings and numbers

The reader takes a string or a number in front of a text just when the grammar
spells it there. For a number the text behind it must not go on with it.
-/

namespace SecretAccess.Json.Reader

open Grammar

theorem bind_eq_ok_iff {ε α β : Type} {x : Except ε α} {f : α → Except ε β} {b : β} :
    x >>= f = .ok b ↔ ∃ a, x = .ok a ∧ f a = .ok b := by
  cases x <;> simp [bind, Except.bind]

variable {c l : Char} {cs rest s t ds : List Char} {n : Nat}

-- ---------------------------------------------------------------------------
-- Characters
-- ---------------------------------------------------------------------------

theorem hexValue_of_hexDigit (h : HexDigit c n) : hexValue c = some n := by
  have hdecimal : ∀ d < 10, hexValue (Char.ofNat (48 + d)) = some d := by decide
  have hlower : ∀ d < 6, hexValue (Char.ofNat (97 + d)) = some (10 + d) := by decide
  have hupper : ∀ d < 6, hexValue (Char.ofNat (65 + d)) = some (10 + d) := by decide
  cases h with
  | decimal hd => exact hdecimal _ hd
  | lower hd => exact hlower _ hd
  | upper hd => exact hupper _ hd

theorem hexDigit_of_hexValue (h : hexValue c = some n) : HexDigit c n := by
  have hoffset : ∀ {base d : Nat}, c.toNat = base + d → Char.ofNat (base + d) = c := by
    intro base d hd
    rw [← hd, Char.ofNat_toNat]
  unfold hexValue at h
  split at h
  case isTrue hc =>
    obtain ⟨hlow, hhigh⟩ : 48 ≤ c.toNat ∧ c.toNat ≤ 57 := Char.isDigit_iff_toNat.mp hc
    obtain rfl := Option.some.inj h
    have hd := HexDigit.decimal (show c.toNat - 48 < 10 by omega)
    rwa [hoffset (by omega)] at hd
  case isFalse =>
    split at h
    case isTrue hc =>
      obtain ⟨hlow, hhigh⟩ : 97 ≤ c.toNat ∧ c.toNat ≤ 102 := by
        simpa [Char.le_def, UInt32.le_iff_toNat_le] using hc
      obtain rfl := Option.some.inj h
      have hd := HexDigit.lower (show c.toNat - 97 < 6 by omega)
      rwa [hoffset (by omega), show 10 + (c.toNat - 97) = c.toNat - 87 by omega] at hd
    case isFalse =>
      split at h
      case isTrue hc =>
        obtain ⟨hlow, hhigh⟩ : 65 ≤ c.toNat ∧ c.toNat ≤ 70 := by
          simpa [Char.le_def, UInt32.le_iff_toNat_le] using hc
        obtain rfl := Option.some.inj h
        have hd := HexDigit.upper (show c.toNat - 65 < 6 by omega)
        rwa [hoffset (by omega), show 10 + (c.toNat - 65) = c.toNat - 55 by omega] at hd
      case isFalse => cases h

theorem hexUnit_append (h : HexUnit n t) (cs : List Char) : hexUnit (t ++ cs) = .ok (n, cs) := by
  cases h with
  | digits ha hb hc hd =>
    simp [hexUnit, hexValue_of_hexDigit ha, hexValue_of_hexDigit hb, hexValue_of_hexDigit hc,
      hexValue_of_hexDigit hd]

theorem of_hexUnit (h : hexUnit cs = .ok (n, rest)) : ∃ t, HexUnit n t ∧ t ++ rest = cs := by
  unfold hexUnit at h
  split at h
  case h_1 a b c d cs =>
    split at h
    case h_1 ha hb hc hd =>
      obtain ⟨rfl, rfl⟩ := Prod.mk.inj (Except.ok.inj h)
      exact ⟨_, .digits (hexDigit_of_hexValue ha) (hexDigit_of_hexValue hb)
        (hexDigit_of_hexValue hc) (hexDigit_of_hexValue hd), rfl⟩
    case h_2 => cases h
  case h_2 => cases h

theorem letterEscape_eq_some_iff : letterEscape l = some c ↔ (l, c) ∈ letterEscapes := by
  unfold letterEscape
  split <;> simp_all [letterEscapes, eq_comm]

/-- No character is a surrogate. -/
theorem toNat_lt (c : Char) : c.toNat < 0xD800 ∨ 0xDFFF < c.toNat ∧ c.toNat < 0x110000 := c.valid

theorem isLowSurrogate_iff : isLowSurrogate n ↔ 0xDC00 ≤ n ∧ n ≤ 0xDFFF := by
  simp [isLowSurrogate]

theorem isHighSurrogate_iff : isHighSurrogate n ↔ 0xD800 ≤ n ∧ n ≤ 0xDBFF := by
  simp [isHighSurrogate]

theorem unicodeEscape_unit (h : HexUnit c.toNat t) (cs : List Char) :
    unicodeEscape (t ++ cs) = .ok (c, cs) := by
  have hc := toNat_lt c
  have hlow : ¬ isLowSurrogate c.toNat := by
    rw [isLowSurrogate_iff]
    omega
  have hhigh : ¬ isHighSurrogate c.toNat := by
    rw [isHighSurrogate_iff]
    omega
  simp [unicodeEscape, hexUnit_append h, hlow, hhigh, bind, Except.bind]

theorem unicodeEscape_pair {u : List Char} (hplane : 0x10000 ≤ c.toNat)
    (ht : HexUnit (highSurrogate c) t) (hu : HexUnit (lowSurrogate c) u) (cs : List Char) :
    unicodeEscape (t ++ '\\' :: 'u' :: (u ++ cs)) = .ok (c, cs) := by
  have hc := toNat_lt c
  have hnot : ¬ isLowSurrogate (highSurrogate c) := by
    rw [isLowSurrogate_iff, highSurrogate]
    omega
  have hhigh : isHighSurrogate (highSurrogate c) := by
    rw [isHighSurrogate_iff, highSurrogate]
    omega
  have hlow : isLowSurrogate (lowSurrogate c) := by
    rw [isLowSurrogate_iff, lowSurrogate]
    omega
  have hsum : 0x10000 + (highSurrogate c - 0xD800) * 0x400 + (lowSurrogate c - 0xDC00) =
      c.toNat := by
    rw [highSurrogate, lowSurrogate]
    omega
  simp [unicodeEscape, hexUnit_append ht, hexUnit_append hu, hnot, hhigh, hlow, hsum, bind,
    Except.bind]

theorem stringChar_append (h : CharText c t) (cs : List Char) :
    stringChar (t ++ cs) = .ok (some c, cs) := by
  cases h with
  | plain hlow hquote hslash => simp_all [stringChar]
  | @letter l hl =>
    simp only [letterEscapes, List.mem_cons, Prod.mk.injEq, List.not_mem_nil, or_false] at hl
    rcases hl with ⟨rfl, rfl⟩ | ⟨rfl, rfl⟩ | ⟨rfl, rfl⟩ | ⟨rfl, rfl⟩ | ⟨rfl, rfl⟩ | ⟨rfl, rfl⟩ |
      ⟨rfl, rfl⟩ | ⟨rfl, rfl⟩
    all_goals rfl
  | unit hunit => simp [stringChar, unicodeEscape_unit hunit, bind, Except.bind]
  | pair hplane ht hu => simp [stringChar, unicodeEscape_pair hplane ht hu, bind, Except.bind]

theorem HexUnit.lt (h : HexUnit n t) : n < 0x10000 := by
  have hd : ∀ {a i}, HexDigit a i → i < 16 := by
    intro a i h
    cases h <;> omega
  cases h with
  | digits ha hb hc hd' =>
    have := hd ha
    have := hd hb
    have := hd hc
    have := hd hd'
    omega

theorem toNat_ofNat_of_isValidChar (h : n < 0xD800 ∨ 0xDFFF < n ∧ n < 0x110000) :
    (Char.ofNat n).toNat = n := by
  rw [Char.ofNat, dif_pos h]
  rfl

/-- The digits of an escape spell the character that is read. -/
theorem of_unicodeEscape (h : unicodeEscape cs = .ok (c, rest)) :
    ∃ t, CharText c ('\\' :: 'u' :: t) ∧ t ++ rest = cs := by
  rw [unicodeEscape, bind_eq_ok_iff] at h
  obtain ⟨⟨unit, cs'⟩, hunit, h⟩ := h
  obtain ⟨t, ht, rfl⟩ := of_hexUnit hunit
  have hlt := HexUnit.lt ht
  dsimp only at h
  split at h
  case isTrue => cases h
  case isFalse hlow =>
    rw [isLowSurrogate_iff] at hlow
    split at h
    case isTrue hhigh =>
      rw [isHighSurrogate_iff] at hhigh
      split at h
      case h_3 =>
        rw [bind_eq_ok_iff] at h
        obtain ⟨⟨low, cs''⟩, hlowUnit, h⟩ := h
        obtain ⟨u, hu, rfl⟩ := of_hexUnit hlowUnit
        dsimp only at h
        split at h
        case isTrue hlow' =>
          rw [isLowSurrogate_iff] at hlow'
          obtain ⟨rfl, rfl⟩ := Prod.mk.inj (Except.ok.inj h)
          have hc := @toNat_ofNat_of_isValidChar
            (0x10000 + (unit - 0xD800) * 0x400 + (low - 0xDC00)) (by omega)
          refine ⟨t ++ '\\' :: 'u' :: u, .pair (by omega) ?_ ?_, by simp⟩
          · rwa [highSurrogate, hc, show 0xD800 + (0x10000 + (unit - 0xD800) * 0x400 +
              (low - 0xDC00) - 0x10000) / 0x400 = unit by omega]
          · rwa [lowSurrogate, hc, show 0xDC00 + (0x10000 + (unit - 0xD800) * 0x400 +
              (low - 0xDC00) - 0x10000) % 0x400 = low by omega]
        case isFalse => cases h
      all_goals cases h
    case isFalse hhigh =>
      rw [isHighSurrogate_iff] at hhigh
      obtain ⟨rfl, rfl⟩ := Prod.mk.inj (Except.ok.inj h)
      refine ⟨t, .unit ?_, rfl⟩
      rwa [toNat_ofNat_of_isValidChar (by omega)]

theorem of_stringChar_some (h : stringChar cs = .ok (some c, rest)) :
    ∃ t, CharText c t ∧ t ++ rest = cs := by
  unfold stringChar at h
  split at h
  case h_1 | h_3 => cases h
  case h_2 => cases h
  case h_4 cs =>
    obtain ⟨⟨d, cs'⟩, hd, h⟩ := bind_eq_ok_iff.mp h
    obtain ⟨hc, rfl⟩ := Prod.mk.inj (Except.ok.inj h)
    obtain rfl := Option.some.inj hc
    obtain ⟨t, ht, rfl⟩ := of_unicodeEscape hd
    exact ⟨_, ht, rfl⟩
  case h_5 l cs hl =>
    split at h
    case h_1 d hd =>
      obtain ⟨hc, rfl⟩ := Prod.mk.inj (Except.ok.inj h)
      obtain rfl := Option.some.inj hc
      exact ⟨_, .letter (letterEscape_eq_some_iff.mp hd), rfl⟩
    case h_2 => cases h
  case h_6 d cs hquote hempty hunit hletter =>
    split at h
    case isTrue => cases h
    case isFalse hd =>
      obtain ⟨hc, rfl⟩ := Prod.mk.inj (Except.ok.inj h)
      obtain rfl := Option.some.inj hc
      refine ⟨_, .plain (Nat.le_of_not_lt hd) hquote ?_, rfl⟩
      rintro rfl
      cases cs with
      | nil => exact hempty rfl rfl
      | cons l cs => exact hletter l cs rfl rfl

theorem of_stringChar_none (h : stringChar cs = .ok (none, rest)) : cs = '"' :: rest := by
  unfold stringChar at h
  split at h
  case h_2 => rw [(Prod.mk.inj (Except.ok.inj h)).2]
  case h_4 =>
    obtain ⟨_, _, h⟩ := bind_eq_ok_iff.mp h
    cases h
  case h_1 | h_3 => cases h
  case h_5 | h_6 => split at h <;> cases h

-- ---------------------------------------------------------------------------
-- Strings
-- ---------------------------------------------------------------------------

theorem length_le_of_stringText (h : StringText s t) : s.length ≤ t.length := by
  induction h with
  | nil => simp
  | cons hc _ ih =>
    rw [List.length_cons, List.length_append]
    have hpos : ∀ {c t}, CharText c t → 0 < t.length := by
      intro c t h
      cases h <;> simp
    have := hpos hc
    omega

theorem stringRest_append {fuel : Nat} (h : StringText s t) (hfuel : s.length < fuel)
    (cs : List Char) : stringRest fuel (t ++ '"' :: cs) = .ok (s, cs) := by
  induction h generalizing fuel with
  | nil =>
    obtain ⟨fuel, rfl⟩ := Nat.exists_eq_add_one_of_ne_zero (Nat.ne_zero_of_lt hfuel)
    rfl
  | cons hc _ ih =>
    obtain ⟨fuel, rfl⟩ := Nat.exists_eq_add_one_of_ne_zero (Nat.ne_zero_of_lt hfuel)
    have hrest := ih (Nat.lt_of_succ_lt_succ hfuel)
    simp only [List.append_assoc, stringRest, stringChar_append hc, hrest, bind, Except.bind]

theorem of_stringRest {fuel : Nat} (h : stringRest fuel cs = .ok (s, rest)) :
    ∃ t, StringText s t ∧ t ++ '"' :: rest = cs := by
  induction fuel generalizing cs s with
  | zero => cases h
  | succ fuel ih =>
    obtain ⟨⟨c?, cs'⟩, hc, h⟩ := bind_eq_ok_iff.mp h
    cases c? with
    | none =>
      obtain ⟨rfl, rfl⟩ := Prod.mk.inj (Except.ok.inj h)
      exact ⟨[], .nil, (of_stringChar_none hc).symm⟩
    | some c =>
      obtain ⟨⟨s', cs''⟩, hs, h⟩ := bind_eq_ok_iff.mp h
      obtain ⟨rfl, rfl⟩ := Prod.mk.inj (Except.ok.inj h)
      obtain ⟨t, ht, rfl⟩ := of_stringChar_some hc
      obtain ⟨ts, hts, rfl⟩ := ih hs
      exact ⟨t ++ ts, .cons ht hts, by simp⟩

theorem stringBody_eq_ok_iff {text : String} :
    stringBody cs = .ok (text, rest) ↔ ∃ t, StringText text.toList t ∧ t ++ '"' :: rest = cs := by
  rw [stringBody, bind_eq_ok_iff]
  constructor
  · rintro ⟨⟨s, cs'⟩, hs, h⟩
    obtain ⟨rfl, rfl⟩ := Prod.mk.inj (Except.ok.inj h)
    rw [String.toList_ofList]
    exact of_stringRest hs
  · rintro ⟨t, ht, rfl⟩
    have hlen := length_le_of_stringText ht
    refine ⟨_, stringRest_append ht ?_ rest, by simp⟩
    rw [List.length_append]
    omega

-- ---------------------------------------------------------------------------
-- Numbers
-- ---------------------------------------------------------------------------

/-- No run of digits goes on with this text. -/
def endsDigits : List Char → Bool
  | [] => true
  | c :: _ => !c.isDigit

/-- No number goes on with this text. -/
def endsNumber : List Char → Bool
  | [] => true
  | c :: _ => !(c.isDigit || c = '.' || c = 'e' || c = 'E')

theorem endsDigits_of_endsNumber (h : endsNumber rest) : endsDigits rest := by
  cases rest <;> simp_all [endsNumber, endsDigits]

theorem someDigits_append (hd : Digits ds) (hrest : endsDigits rest) :
    someDigits (ds ++ rest) = .ok (ds, rest) := by
  obtain ⟨hne, hall⟩ := hd
  have hboth : digitsThen (ds ++ rest) = (ds, rest) := by
    rw [digitsThen, List.takeWhile_append_of_pos hall, List.dropWhile_append_of_pos hall]
    cases rest <;> simp_all [endsDigits]
  obtain ⟨d, ds, rfl⟩ := List.exists_cons_of_ne_nil hne
  rw [someDigits, hboth]

theorem of_someDigits (h : someDigits cs = .ok (ds, rest)) : Digits ds ∧ ds ++ rest = cs := by
  unfold someDigits at h
  split at h
  case h_1 | h_2 => cases h
  case h_3 hnil hcons =>
    have hread : digitsThen cs = (ds, rest) := Except.ok.inj h
    have hne : ds ≠ [] := by
      rintro rfl
      cases rest with
      | nil => exact hnil hread
      | cons c rest => exact hcons c rest hread
    obtain ⟨hds, hrest⟩ := Prod.mk.inj hread
    refine ⟨⟨hne, fun c hc => ?_⟩, ?_⟩
    · have hall : (cs.takeWhile Char.isDigit).all Char.isDigit := List.all_takeWhile
      rw [hds] at hall
      exact List.all_eq_true.mp hall c hc
    · rw [← hds, ← hrest, List.takeWhile_append_dropWhile]

/-- A whole part: digits with no zero in front of others. -/
theorem wholePart_append (hd : Digits ds) (hzero : ∀ others, ds = '0' :: others → others = [])
    (hrest : endsDigits rest) : wholePart (ds ++ rest) = .ok (ds, rest) := by
  rw [wholePart, someDigits_append hd hrest]
  simp only [bind, Except.bind]
  split
  case h_1 => simp at hzero
  case h_2 => rfl

theorem of_wholePart (h : wholePart cs = .ok (ds, rest)) :
    Digits ds ∧ (∀ others, ds = '0' :: others → others = []) ∧ ds ++ rest = cs := by
  rw [wholePart, bind_eq_ok_iff] at h
  obtain ⟨⟨ds', rest'⟩, hds, h⟩ := h
  dsimp only at h
  split at h
  case h_1 => cases h
  case h_2 hzero =>
    obtain ⟨rfl, rfl⟩ := Prod.mk.inj (Except.ok.inj h)
    obtain ⟨hdigits, hcs⟩ := of_someDigits hds
    refine ⟨hdigits, ?_, hcs⟩
    rintro others rfl
    cases others with
    | nil => rfl
    | cons d others => exact (hzero d others rfl).elim

/-- The text behind a point, if there are decimals. -/
theorem decimalPart_append {n : Numeral} (hn : ∀ c ∈ n.decimals, c.isDigit)
    (hrest : endsDigits rest) (hpoint : ∀ cs, rest ≠ '.' :: cs) :
    decimalPart (n.decimalText ++ rest) = .ok (n.decimals, rest) := by
  by_cases hd : n.decimals = []
  · rw [Numeral.decimalText, if_pos hd, List.nil_append, hd]
    unfold decimalPart
    split
    case h_1 => exact absurd rfl (hpoint _)
    case h_2 => rfl
  · rw [Numeral.decimalText, if_neg hd, List.cons_append, decimalPart]
    exact someDigits_append ⟨hd, hn⟩ hrest

theorem of_decimalPart (h : decimalPart cs = .ok (ds, rest)) :
    (∀ c ∈ ds, c.isDigit) ∧ (if ds = [] then [] else '.' :: ds) ++ rest = cs := by
  unfold decimalPart at h
  split at h
  case h_1 cs =>
    obtain ⟨⟨hne, hall⟩, rfl⟩ := of_someDigits h
    exact ⟨hall, by rw [if_neg hne, List.cons_append]⟩
  case h_2 =>
    obtain ⟨rfl, rfl⟩ := Prod.mk.inj (Except.ok.inj h)
    exact ⟨by simp, rfl⟩

theorem powerPart_text {e : Exponent} (he : e.WellFormed) (hrest : endsDigits rest) :
    powerPart (e.text ++ rest) = .ok (⟨e.sign = ['-'], e.digits, e.text⟩, rest) := by
  obtain ⟨marker, sign, digits⟩ := e
  obtain ⟨hmarker, hsign, hdigits⟩ := he
  have hread := someDigits_append hdigits hrest
  have hm : (marker = 'e' || marker = 'E') = true := by simpa using hmarker
  rcases hsign with rfl | rfl | rfl
  · -- without a sign, the first digit must not be taken for one
    obtain ⟨d, ds, rfl⟩ := List.exists_cons_of_ne_nil hdigits.1
    have hd : d.isDigit := hdigits.2 d List.mem_cons_self
    have hplus : d ≠ '+' := by
      rintro rfl
      simp at hd
    have hminus : d ≠ '-' := by
      rintro rfl
      simp at hd
    rw [List.cons_append] at hread
    simp only [Exponent.text, List.nil_append, List.cons_append, powerPart, hm, if_true]
    split <;> simp_all [bind, Except.bind]
  · simp [Exponent.text, powerPart, hm, hread, bind, Except.bind]
  · simp [Exponent.text, powerPart, hm, hread, bind, Except.bind]

/-- What is read of an exponent, or of none. -/
structure Power.Spells (p : Power) (e : Option Exponent) : Prop where
  wellFormed : ∀ x ∈ e, x.WellFormed
  spelling : p.spelling = (e.map Exponent.text).getD []
  value : p.value = (e.map Exponent.value).getD 0

theorem Power.spells_none : (⟨false, [], []⟩ : Power).Spells none := ⟨by simp, rfl, rfl⟩

theorem Power.spells_some {e : Exponent} (he : e.WellFormed) :
    (⟨e.sign = ['-'], e.digits, e.text⟩ : Power).Spells (some e) :=
  ⟨by simpa using he, rfl, by simp [Power.value, Exponent.value]⟩

theorem powerPart_append {e : Option Exponent} (he : ∀ x ∈ e, x.WellFormed)
    (hrest : endsNumber rest) :
    ∃ p, powerPart ((e.map Exponent.text).getD [] ++ rest) = .ok (p, rest) ∧ p.Spells e := by
  cases e with
  | none =>
    refine ⟨_, ?_, Power.spells_none⟩
    cases rest with
    | nil => rfl
    | cons c rest => simp_all [endsNumber, powerPart]
  | some e =>
    have he := he e rfl
    exact ⟨_, powerPart_text he (endsDigits_of_endsNumber hrest), Power.spells_some he⟩

theorem of_powerPart {p : Power} (h : powerPart cs = .ok (p, rest)) :
    ∃ e, p.Spells e ∧ p.spelling ++ rest = cs := by
  unfold powerPart at h
  split at h
  case h_2 =>
    obtain ⟨rfl, rfl⟩ := Prod.mk.inj (Except.ok.inj h)
    exact ⟨none, Power.spells_none, rfl⟩
  case h_1 c cs =>
    split at h
    case isFalse =>
      obtain ⟨rfl, rfl⟩ := Prod.mk.inj (Except.ok.inj h)
      exact ⟨none, Power.spells_none, rfl⟩
    case isTrue hm =>
      have hmarker : c = 'e' ∨ c = 'E' := by simpa using hm
      split at h
      all_goals
        obtain ⟨⟨ds, cs'⟩, hds, h⟩ := bind_eq_ok_iff.mp h
        obtain ⟨rfl, rfl⟩ := Prod.mk.inj (Except.ok.inj h)
        obtain ⟨hd, rfl⟩ := of_someDigits hds
      case h_1 => exact ⟨_, @Power.spells_some ⟨c, ['+'], ds⟩ ⟨hmarker, .inr (.inl rfl), hd⟩, rfl⟩
      case h_2 => exact ⟨_, @Power.spells_some ⟨c, ['-'], ds⟩ ⟨hmarker, .inr (.inr rfl), hd⟩, rfl⟩
      case h_3 => exact ⟨_, @Power.spells_some ⟨c, [], ds⟩ ⟨hmarker, .inl rfl, hd⟩, rfl⟩

theorem endsDigits_exponentText {n : Numeral} (hn : ∀ e ∈ n.exponent, e.WellFormed)
    (hrest : endsNumber rest) :
    endsDigits (n.exponentText ++ rest) ∧ ∀ cs, n.exponentText ++ rest ≠ '.' :: cs := by
  cases he : n.exponent with
  | none =>
    rw [Numeral.exponentText, he]
    refine ⟨endsDigits_of_endsNumber hrest, ?_⟩
    rintro cs hcs
    simp only [Option.map_none, Option.getD_none, List.nil_append] at hcs
    simp [hcs, endsNumber] at hrest
  | some e =>
    have hm := (hn e he).marker
    rw [Numeral.exponentText, he]
    rcases hm with hm | hm <;> simp [Exponent.text, endsDigits, hm]

theorem number_append {fits : Magnitude → Bool} {n : Numeral} (hn : n.WellFormed)
    (hfits : fits n.size) (hrest : endsNumber rest) (sign : List Char) :
    number fits sign (n.text ++ rest) = .ok (.number (String.ofList (sign ++ n.text)), rest) := by
  obtain ⟨hends, hpoint⟩ := endsDigits_exponentText hn.exponent hrest
  obtain ⟨p, hp, hspells⟩ := powerPart_append hn.exponent hrest
  have hwhole : endsDigits (n.decimalText ++ (n.exponentText ++ rest)) := by
    by_cases hd : n.decimals = []
    · simpa [Numeral.decimalText, hd] using hends
    · simp [Numeral.decimalText, hd, endsDigits]
  have hw := wholePart_append hn.whole hn.leading hwhole
  have hd := decimalPart_append hn.decimals hends hpoint
  have htext : n.text ++ rest = n.whole ++ (n.decimalText ++ (n.exponentText ++ rest)) := by
    simp [Numeral.text]
  have hsize : fits (magnitude n.whole n.decimals p.value) = true := by
    rw [hspells.value]
    exact hfits
  rw [htext, number]
  simp only [hw, hd, bind, Except.bind]
  rw [Numeral.exponentText, hp]
  simp [hsize, hspells.spelling, Numeral.text, Numeral.decimalText, Numeral.exponentText]

theorem of_number {fits : Magnitude → Bool} {sign : List Char} {j : Json}
    (h : number fits sign cs = .ok (j, rest)) :
    ∃ n : Numeral, n.WellFormed ∧ fits n.size ∧ j = .number (String.ofList (sign ++ n.text)) ∧
      n.text ++ rest = cs := by
  simp only [number, bind_eq_ok_iff, Prod.exists] at h
  obtain ⟨whole, cs₁, hw, decimals, cs₂, hd, power, cs₃, hp, h⟩ := h
  obtain ⟨hdigits, hzero, rfl⟩ := of_wholePart hw
  obtain ⟨hdecimals, rfl⟩ := of_decimalPart hd
  obtain ⟨e, hspells, rfl⟩ := of_powerPart hp
  split at h
  case isFalse => cases h
  case isTrue hsize =>
    obtain ⟨rfl, rfl⟩ := Prod.mk.inj (Except.ok.inj h)
    refine ⟨⟨whole, decimals, e⟩, ⟨hdigits, hzero, hdecimals, hspells.wellFormed⟩, ?_, ?_, ?_⟩
    · rwa [hspells.value] at hsize
    · simp [Numeral.text, Numeral.decimalText, Numeral.exponentText, hspells.spelling]
    · simp [Numeral.text, Numeral.decimalText, Numeral.exponentText, hspells.spelling]

-- ---------------------------------------------------------------------------
-- Scalars
-- ---------------------------------------------------------------------------

theorem literal_append (value : Json) (es cs : List Char) :
    literal value es (es ++ cs) = .ok (value, cs) := by
  induction es with
  | nil => rfl
  | cons e es ih => simp [literal, ih]

theorem of_literal {value j : Json} {es : List Char} (h : literal value es cs = .ok (j, rest)) :
    j = value ∧ es ++ rest = cs := by
  induction es generalizing cs with
  | nil =>
    obtain ⟨rfl, rfl⟩ := Prod.mk.inj (Except.ok.inj h)
    exact ⟨rfl, rfl⟩
  | cons e es ih =>
    cases cs with
    | nil => cases h
    | cons c cs =>
      rw [literal] at h
      split at h
      case isTrue hc =>
        obtain ⟨rfl, rfl⟩ := ih h
        exact ⟨rfl, by rw [hc, List.cons_append]⟩
      case isFalse => cases h

theorem of_scalar {fits : Magnitude → Bool} {j : Json} {room : Nat}
    (h : scalar fits cs = .ok (j, rest)) : ∃ t, Value fits room j t ∧ t ++ rest = cs := by
  unfold scalar at h
  split at h
  case h_1 => cases h
  case h_2 =>
    obtain ⟨rfl, rfl⟩ := of_literal h
    exact ⟨_, .null, rfl⟩
  case h_3 =>
    obtain ⟨rfl, rfl⟩ := of_literal h
    exact ⟨_, .isTrue, rfl⟩
  case h_4 =>
    obtain ⟨rfl, rfl⟩ := of_literal h
    exact ⟨_, .isFalse, rfl⟩
  case h_5 =>
    obtain ⟨⟨text, cs'⟩, hbody, h⟩ := bind_eq_ok_iff.mp h
    obtain ⟨rfl, rfl⟩ := Prod.mk.inj (Except.ok.inj h)
    obtain ⟨t, ht, rfl⟩ := stringBody_eq_ok_iff.mp hbody
    exact ⟨_, .string ht, by simp [quoted]⟩
  case h_6 =>
    obtain ⟨n, hn, hfits, rfl, rfl⟩ := of_number h
    exact ⟨_, .negative hn hfits, rfl⟩
  case h_7 =>
    split at h
    case isTrue =>
      obtain ⟨n, hn, hfits, rfl, hcs⟩ := of_number h
      exact ⟨_, .positive hn hfits, hcs⟩
    case isFalse => cases h

end SecretAccess.Json.Reader
