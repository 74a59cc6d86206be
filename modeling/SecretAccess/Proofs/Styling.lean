import SecretAccess.Text.Ansi
import SecretAccess.Text.Blank
import Mathlib.Data.List.Forall2

/-!
# Styled text

A text is styled by putting codes between its characters, and it is got back
by taking them out. Reading finds just the codes that were put there, as long
as the text itself holds nothing that opens one (`strip_of_styledAs`). White
space at the end of a text belongs to no code, however the text is read
(`stripFrom_append_blanks`).
-/

namespace SecretAccess.Text

namespace Ansi

variable {cs bs : List Char} {c : Char}

-- ---------------------------------------------------------------------------
-- Stripping, a character at a time
-- ---------------------------------------------------------------------------

/-- What is left of a text without its codes. -/
def stripFrom (skip : Nat) (cs : List Char) : List Char := (piecesFrom skip cs).flatten

theorem strip_eq (s : String) : strip s = String.ofList (stripFrom 0 s.toList) := rfl

@[simp] theorem stripFrom_nil (skip : Nat) : stripFrom skip [] = [] := rfl

@[simp] theorem stripFrom_succ (skip : Nat) (c : Char) (cs : List Char) :
    stripFrom (skip + 1) (c :: cs) = stripFrom skip cs := by
  simp [stripFrom, piecesFrom]

theorem stripFrom_length_append (code cs : List Char) :
    stripFrom code.length (code ++ cs) = stripFrom 0 cs := by
  induction code with
  | nil => rfl
  | cons c code ih => rw [List.length_cons, List.cons_append, stripFrom_succ, ih]

theorem stripFrom_of_code {n : Nat} (hc : isOpening c) (hn : codeLength cs = some n) :
    stripFrom 0 (c :: cs) = stripFrom n cs := by
  simp [stripFrom, piecesFrom, hc, hn]

/-- A character that opens no code, or none that is ever completed. -/
theorem stripFrom_of_no_code (h : (if isOpening c then codeLength cs else none) = none) :
    stripFrom 0 (c :: cs) = c :: stripFrom 0 cs := by
  simp only [stripFrom, piecesFrom, Nat.lt_irrefl, if_false, h]
  cases piecesFrom 0 cs <;> simp

-- ---------------------------------------------------------------------------
-- Codes
-- ---------------------------------------------------------------------------

theorem next_of_isDigit (r : Reading) (hc : c.isDigit) : r.next c = r.afterDigit c := by
  have hne : ∀ d : Char, d.isDigit = false → c ≠ d := by
    rintro d hd rfl
    simp [hc] at hd
  simp [Reading.next, hne '(' rfl, hne ')' rfl, hne ';' rfl, hne '[' rfl, hne '#' rfl,
    hne '?' rfl, hc]

/-- Nothing continues a code that has been closed. -/
theorem next_closed (c : Char) : Reading.closed.next c = none := by
  simp [Reading.next, Reading.afterDigit]

theorem longest_closed (seen : Nat) (best : Option Nat) (cs : List Char) :
    longest .closed seen best cs = best := by
  cases cs with
  | nil => rfl
  | cons c cs => rw [longest, next_closed]

/-- Digits are read on as long as they are four at most, and an `m` closes the code. -/
theorem longest_digits {ds : List Char} (hd : ∀ c ∈ ds, c.isDigit) {count : Nat}
    (hn : count + ds.length ≤ 4) (seen : Nat) (best : Option Nat) (cs : List Char) :
    longest (.digits count) seen best (ds ++ 'm' :: cs) = some (seen + ds.length + 1) := by
  induction ds generalizing count seen best with
  | nil =>
    have hm : (Reading.digits count).next 'm' = some .closed := rfl
    simp [longest, hm, longest_closed, Reading.mayEnd]
  | cons d ds ih =>
    obtain ⟨hd, hds⟩ := List.forall_mem_cons.mp hd
    rw [List.length_cons] at hn
    have hx : (Reading.digits count).next d = some (.digits (count + 1)) := by
      rw [next_of_isDigit _ hd, Reading.afterDigit, if_pos (by omega)]
    have hn : count + 1 + ds.length ≤ 4 := by omega
    rw [List.cons_append, longest, hx]
    refine (ih hds hn (seen + 1) _).trans (congrArg some ?_)
    rw [List.length_cons]
    omega

/-- The length of a code with one parameter, the bracket and the `m` included. -/
theorem codeLength_parameter {ds : List Char} (hne : ds ≠ []) (hd : ∀ c ∈ ds, c.isDigit)
    (hn : ds.length ≤ 4) (cs : List Char) :
    codeLength ('[' :: ds ++ 'm' :: cs) = some (ds.length + 2) := by
  obtain ⟨d, ds, rfl⟩ := List.exists_cons_of_ne_nil hne
  obtain ⟨hd, hds⟩ := List.forall_mem_cons.mp hd
  have hb : Reading.opened.next '[' = some .intro := rfl
  have hx : Reading.intro.next d = some (.digits 1) := next_of_isDigit _ hd
  have hn : 1 + ds.length ≤ 4 := by simpa [Nat.add_comm] using hn
  simp only [codeLength, List.cons_append, longest, hb, hx, longest_digits hds hn]
  rw [List.length_cons]
  exact congrArg some (by omega)

/-- Codes of styles have one parameter, which is not too long to be read. -/
theorem stripFrom_code {n : Nat} (hn : n < 10000) (cs : List Char) :
    stripFrom 0 ((Style.code n).toList ++ cs) = stripFrom 0 cs := by
  have hd : ∀ c ∈ Nat.toDigits 10 n, c.isDigit := fun c hc =>
    Nat.isDigit_of_mem_toDigits (by decide) (by decide) hc
  have hl : (Nat.toDigits 10 n).length ≤ 4 :=
    (Nat.length_toDigits_le_iff (by decide) (by decide)).mpr hn
  have hcode : (Style.code n).toList ++ cs =
      '\x1b' :: ('[' :: Nat.toDigits 10 n ++ 'm' :: cs) := by
    simp [Style.code, Nat.toList_repr]
  rw [hcode, stripFrom_of_code rfl (codeLength_parameter Nat.toDigits_ne_nil hd hl cs)]
  simpa using stripFrom_length_append ('[' :: Nat.toDigits 10 n ++ ['m']) cs

-- ---------------------------------------------------------------------------
-- White space at the end
-- ---------------------------------------------------------------------------

/-- The character is no part of any code. -/
structure Inert (c : Char) : Prop where
  opens : isOpening c = false
  continues : ∀ r : Reading, r.next c = none

theorem le_iff_toNat {d : Char} : c ≤ d ↔ c.toNat ≤ d.toNat := by
  rw [Char.le_def, UInt32.le_iff_toNat_le]
  rfl

theorem visible_of_isClosing (h : isClosing c) : 0x20 < c.toNat ∧ c.toNat < 0x7F := by
  simp only [isClosing, le_iff_toNat, ← Char.toNat_inj, Char.reduceToNat, Bool.or_eq_true,
    Bool.and_eq_true, decide_eq_true_eq] at h
  omega

theorem visible_of_isDigit (h : c.isDigit) : 0x20 < c.toNat ∧ c.toNat < 0x7F := by
  have hv : 48 ≤ c.toNat ∧ c.toNat ≤ 57 := by
    simpa [Char.isDigit, UInt32.le_iff_toNat_le] using h
  omega

/-- All but the character that opens a code is visible ASCII. -/
theorem visible_of_next {r r' : Reading} (h : r.next c = some r') :
    0x20 < c.toNat ∧ c.toNat < 0x7F := by
  unfold Reading.next at h
  split at h
  case isTrue hp =>
    simp only [← Char.toNat_inj, Char.reduceToNat, Bool.or_eq_true, decide_eq_true_eq] at hp
    omega
  split at h
  case isTrue hp => simp [hp]
  split at h
  case isTrue hp =>
    simp only [← Char.toNat_inj, Char.reduceToNat, Bool.or_eq_true, decide_eq_true_eq] at hp
    omega
  split at h
  case isTrue hd => exact visible_of_isDigit hd
  split at h
  case isTrue hc => exact visible_of_isClosing hc
  cases h

theorem inert_of_isBlank (hc : isBlank c) : Inert c := by
  have hn : c.toNat ≤ 0x20 ∨ 0x7F ≤ c.toNat := by
    simp only [isBlank, Bool.or_eq_true, Bool.and_eq_true, decide_eq_true_eq] at hc
    omega
  have hx : ∀ r : Reading, r.next c = none := fun r =>
    Option.eq_none_iff_forall_ne_some.mpr fun r' h => by
      have hv := visible_of_next h
      omega
  refine ⟨?_, hx⟩
  have he : c ≠ '\x1b' := by
    rintro rfl
    exact absurd hc (by decide)
  have h9 : c ≠ '\u009b' := by
    rintro rfl
    exact absurd hc (by decide)
  simp [isOpening, he, h9]

theorem longest_append_of_inert {b : Char} (hb : Inert b) (r : Reading) (seen : Nat)
    (best : Option Nat) (cs bs : List Char) :
    longest r seen best (cs ++ b :: bs) = longest r seen best cs := by
  induction cs generalizing r seen best with
  | nil => simp only [List.nil_append, longest, hb.continues]
  | cons c cs ih =>
    rw [List.cons_append, longest, longest]
    cases r.next c with
    | none => rfl
    | some r => exact ih r _ _

theorem codeLength_append_of_inert {b : Char} (hb : Inert b) (cs bs : List Char) :
    codeLength (cs ++ b :: bs) = codeLength cs :=
  longest_append_of_inert hb ..

theorem longest_le {r : Reading} {seen n : Nat} {best : Option Nat}
    (hbest : ∀ m, best = some m → m ≤ seen) (h : longest r seen best cs = some n) :
    n ≤ seen + cs.length := by
  induction cs generalizing r seen best with
  | nil => exact hbest n h
  | cons c cs ih =>
    rw [longest] at h
    cases hr : r.next c with
    | none =>
      rw [hr] at h
      exact Nat.le_add_right_of_le (hbest n h)
    | some r' =>
      rw [hr] at h
      have hbest' : ∀ m, (if r'.mayEnd then some (seen + 1) else best) = some m →
          m ≤ seen + 1 := by
        intro m hm
        split at hm
        · cases hm
          exact Nat.le_refl _
        · exact Nat.le_succ_of_le (hbest m hm)
      have hle := ih hbest' h
      rw [List.length_cons]
      omega

/-- A code lies within its text. -/
theorem codeLength_le {n : Nat} (h : codeLength cs = some n) : n ≤ cs.length := by
  simpa using longest_le (by simp) h

/-- Codes do not reach beyond a character that is no part of any code. -/
theorem stripFrom_append_of_inert {b : Char} (hb : Inert b) {skip : Nat}
    (hs : skip ≤ cs.length) (bs : List Char) :
    stripFrom skip (cs ++ b :: bs) = stripFrom skip cs ++ b :: stripFrom 0 bs := by
  induction cs generalizing skip with
  | nil =>
    obtain rfl : skip = 0 := Nat.le_zero.mp hs
    exact stripFrom_of_no_code (by simp [hb.opens])
  | cons c cs ih =>
    cases skip with
    | succ skip =>
      rw [List.cons_append, stripFrom_succ, stripFrom_succ, ih (Nat.le_of_succ_le_succ hs)]
    | zero =>
      have hl := codeLength_append_of_inert hb cs bs
      cases hc : (if isOpening c then codeLength cs else none) with
      | none =>
        rw [List.cons_append, stripFrom_of_no_code (by rwa [hl]), stripFrom_of_no_code hc,
          ih (Nat.zero_le _), List.cons_append]
      | some n =>
        obtain ⟨ho, hn⟩ : isOpening c ∧ codeLength cs = some n := by simpa using hc
        rw [List.cons_append, stripFrom_of_code ho (hl.trans hn), stripFrom_of_code ho hn,
          ih (codeLength_le hn)]

/-- White space at the end of a text stays there. -/
theorem stripFrom_append_blanks (hb : ∀ b ∈ bs, isBlank b) :
    stripFrom 0 (cs ++ bs) = stripFrom 0 cs ++ bs := by
  induction bs generalizing cs with
  | nil => simp
  | cons b bs ih =>
    obtain ⟨h, hb⟩ := List.forall_mem_cons.mp hb
    have hbs : stripFrom 0 ([] ++ bs) = [] ++ bs := ih hb
    rw [List.nil_append] at hbs
    rw [stripFrom_append_of_inert (inert_of_isBlank h) (Nat.zero_le _), hbs]

/-- Each line is stripped for itself. -/
theorem strip_lines (lines : List String) :
    strip (String.join (lines.map (· ++ "\n"))) =
      String.join (lines.map fun line => strip line ++ "\n") := by
  induction lines with
  | nil => rfl
  | cons line lines ih =>
    have hn : Inert '\n' := inert_of_isBlank (by decide)
    have hl : (String.join ((line :: lines).map (· ++ "\n"))).toList =
        line.toList ++ '\n' :: (String.join (lines.map (· ++ "\n"))).toList := by simp
    rw [strip_eq] at ih
    rw [strip_eq, hl, stripFrom_append_of_inert hn (Nat.zero_le _), List.map_cons,
      String.join_cons, ← ih, strip_eq]
    simp [String.append_assoc]

-- ---------------------------------------------------------------------------
-- Codes between characters
-- ---------------------------------------------------------------------------

/-- The first text is the second one with codes put between its characters. -/
inductive Styled : List Char → List Char → Prop
  | nil : Styled [] []
  | char (c : Char) {s p : List Char} : Styled s p → Styled (c :: s) (c :: p)
  | code {n : Nat} {s p : List Char} : n < 10000 → Styled s p →
    Styled ((Style.code n).toList ++ s) p

/-- Nothing in the text opens a code. -/
def Codeless (cs : List Char) : Prop := ∀ c ∈ cs, isOpening c = false

variable {s p s' p' : List Char}

theorem Styled.refl (cs : List Char) : Styled cs cs := by
  induction cs with
  | nil => exact .nil
  | cons c cs ih => exact .char c ih

theorem Styled.append (h : Styled s p) (h' : Styled s' p') : Styled (s ++ s') (p ++ p') := by
  induction h with
  | nil => exact h'
  | char c _ ih => exact .char c ih
  | code hn _ ih =>
    rw [List.append_assoc]
    exact .code hn ih

/-- Taking out the codes that are found gives back the text. -/
theorem stripFrom_of_styled (h : Styled s p) (hp : Codeless p) : stripFrom 0 s = p := by
  induction h with
  | nil => rfl
  | char c _ ih =>
    obtain ⟨hc, hp⟩ := List.forall_mem_cons.mp hp
    rw [stripFrom_of_no_code (by simp [hc]), ih hp]
  | code hn _ ih => rw [stripFrom_code hn, ih hp]

end Ansi

open Ansi (Styled Codeless isOpening)

/-- What holds of two pieces when it holds of their parts also holds of two lists
that are joined. -/
theorem intercalate_of_forall₂ {R : String → String → Prop}
    (happend : ∀ {a b c d}, R a b → R c d → R (a ++ c) (b ++ d)) (hempty : R "" "")
    {separator : String} (hs : R separator separator) {l m : List String}
    (h : List.Forall₂ R l m) : R (separator.intercalate l) (separator.intercalate m) := by
  induction h with
  | nil => simpa using hempty
  | cons ha hl ih =>
    cases hl with
    | nil => simpa using ha
    | cons hb hl =>
      rw [String.intercalate_cons_cons, String.intercalate_cons_cons]
      exact happend (happend ha hs) ih

/-- What is shown of the first text, once its styling is taken out, is the second. -/
def StyledAs (s p : String) : Prop := Styled s.toList p.toList

variable {s p s' p' : String}

theorem strip_of_styledAs (h : StyledAs s p) (hp : Codeless p.toList) : Ansi.strip s = p := by
  rw [Ansi.strip_eq, Ansi.stripFrom_of_styled h hp, String.ofList_toList]

namespace StyledAs

theorem refl (s : String) : StyledAs s s := Styled.refl _

theorem append (h : StyledAs s p) (h' : StyledAs s' p') : StyledAs (s ++ s') (p ++ p') := by
  rw [StyledAs, String.toList_append, String.toList_append]
  exact Styled.append h h'

theorem codes {style : Style} (hs : ∀ n ∈ style, n < 10000) :
    StyledAs (String.join (style.map Style.code)) "" := by
  induction style with
  | nil => exact .refl _
  | cons n style ih =>
    obtain ⟨hn, hs⟩ := List.forall_mem_cons.mp hs
    rw [List.map_cons, String.join_cons, StyledAs, String.toList_append]
    exact .code hn (ih hs)

theorem paint {style : Style} (hs : ∀ n ∈ style, n < 10000) (text : String) :
    StyledAs (style.paint text) text := by
  have hreset : StyledAs (Style.code 0) "" := by
    simpa [StyledAs] using Styled.code (by decide : 0 < 10000) .nil
  simpa [Style.paint] using ((codes hs).append (.refl text)).append hreset

theorem intercalate (separator : String) {l m : List String} (h : List.Forall₂ StyledAs l m) :
    StyledAs (separator.intercalate l) (separator.intercalate m) :=
  intercalate_of_forall₂ append (.refl "") (.refl separator) h

end StyledAs

-- ---------------------------------------------------------------------------
-- Text without control characters
-- ---------------------------------------------------------------------------

def isControl (c : Char) : Bool :=
  let n := c.toNat
  n ≤ 0x1F || (0x7F ≤ n && n ≤ 0x9F)

def Printable (s : String) : Prop := ∀ c ∈ s.toList, isControl c = false

instance (s : String) : Decidable (Printable s) :=
  List.decidableBAll (fun c => isControl c = false) s.toList

namespace Printable

theorem append (h : Printable s) (h' : Printable s') : Printable (s ++ s') := by
  intro c hc
  rw [String.toList_append, List.mem_append] at hc
  exact hc.elim (h c) (h' c)

theorem intercalate {separator : String} (hs : Printable separator) {l : List String}
    (h : ∀ s ∈ l, Printable s) : Printable (separator.intercalate l) :=
  intercalate_of_forall₂ append (by decide) hs (List.forall₂_same.mpr h)

/-- The characters that open a code are control characters. -/
theorem codeless (h : Printable s) : Codeless s.toList := by
  intro c hc
  have hn := h c hc
  have he : c ≠ '\x1b' := by
    rintro rfl
    exact absurd hn (by decide)
  have h9 : c ≠ '\u009b' := by
    rintro rfl
    exact absurd hn (by decide)
  simp [isOpening, he, h9]

theorem newline_notMem (h : Printable s) : '\n' ∉ s.toList := fun hc =>
  absurd (h '\n' hc) (by decide)

end Printable

/-- Once its styling is taken out, the first text reads as the second, which is
printable. -/
structure ShownAs (s p : String) : Prop where
  styled : StyledAs s p
  printable : Printable p

namespace ShownAs

theorem refl (h : Printable s) : ShownAs s s := ⟨.refl s, h⟩

theorem append (h : ShownAs s p) (h' : ShownAs s' p') : ShownAs (s ++ s') (p ++ p') :=
  ⟨h.styled.append h'.styled, h.printable.append h'.printable⟩

theorem intercalate {separator : String} (hs : Printable separator) {l m : List String}
    (h : List.Forall₂ ShownAs l m) :
    ShownAs (separator.intercalate l) (separator.intercalate m) :=
  intercalate_of_forall₂ append (.refl (by decide)) (.refl hs) h

theorem strip (h : ShownAs s p) : Ansi.strip s = p :=
  strip_of_styledAs h.styled h.printable.codeless

end ShownAs

/-- The text reads as something printable once its styling is taken out. -/
def Legible (s : String) : Prop := ∃ p, ShownAs s p

theorem Legible.shownAs (h : Legible s) : ShownAs s (Ansi.strip s) := by
  obtain ⟨p, hp⟩ := h
  exact hp.strip ▸ hp

end SecretAccess.Text
