import SecretAccess.Text.Ansi
import SecretAccess.Text.Marks
import SecretAccess.Text.Columns.Ranges

/-!
# Terminal columns

The number of columns a text takes on a terminal. Most characters have a width
of their own, but some sequences are drawn as one: a line end of two
characters, a picture with a selector, a skin tone or joiners, a flag of two
letters, and the ligatures of a few scripts. A text is therefore read from its
end, and each character is measured knowing what follows it.
-/

namespace SecretAccess.Text

namespace Columns

/-- What a character can be drawn together with. -/
inductive Neighbour where
  | plain
  | lineFeed
  | picture
  | skinTone
  | flagLetter
  | flagLetters
  | joinedPicture
  | joinedKeycap
  | joinedFlagLetter
  | joinedFlagEven
  | joinedFlagOdd
  | tagLetters (count : Nat)
  | tagDigits (count : Nat)
  | alef
  | lamed (joined : Bool)
  | coengLetter
  | buginese (joined : Bool)
  | bugineseVowel
  | tifinagh (joined : Bool)
  | tifinaghJoiner
  | lisuTone
  | orkhon (joined : Bool)
  | kiratE
  | kiratAi
deriving DecidableEq, Repr

open Neighbour

namespace Neighbour

/-- Parts of a ligature that ignorable marks do not take apart. -/
def isLigature : Neighbour → Bool
  | lamed _ | coengLetter | buginese _ | bugineseVowel | tifinagh _ | tifinaghJoiner | lisuTone
  | orkhon _ => true
  | _ => false

/-- A part of a ligature with a joiner in front of it. -/
def join : Neighbour → Neighbour
  | lamed _ => lamed true
  | buginese _ => buginese true
  | tifinagh _ => tifinagh true
  | orkhon _ => orkhon true
  | neighbour => neighbour

/-- Letters that may stand in a ligature keep a selector in front of them. -/
def keepsSelector (neighbour : Neighbour) : Bool := neighbour.isLigature || neighbour = alef

def isJoinedPicture : Neighbour → Bool
  | joinedPicture | joinedKeycap => true
  | _ => false

/-- A picture that a joiner has opened waits for one more in front of it. -/
def keepsPictureSelector (neighbour : Neighbour) : Bool :=
  neighbour.keepsSelector || neighbour.isJoinedPicture

end Neighbour

/-- The selectors that change how the character in front of them is drawn. -/
inductive Selector where
  | picture
  | text
  | quote
deriving DecidableEq, Repr

/-- What stands behind a character: its neighbour, and the selector that stands
in front of that. -/
structure Following where
  neighbour : Neighbour
  selector : Option Selector
deriving DecidableEq, Repr

namespace Following

def of (neighbour : Neighbour) : Following := ⟨neighbour, none⟩

def plain : Following := of .plain

/-- A selector takes the place of the one behind it, and hides all but the
neighbours that wait in front of it. -/
def select (selector : Selector) (next : Following) : Following :=
  let waits := match selector with
    | .picture => next.neighbour.keepsPictureSelector
    | .text | .quote => next.neighbour.keepsSelector
  ⟨if waits then next.neighbour else .plain, some selector⟩

end Following

def isFlagLetter (c : Char) : Bool := isBetween c 0x1F1E6 0x1F1FF

def isSkinTone (c : Char) : Bool := isBetween c 0x1F3FB 0x1F3FF

def isTagLetter (c : Char) : Bool := isBetween c 0xE0061 0xE007A

def isTagDigit (c : Char) : Bool := isBetween c 0xE0030 0xE0039

def isJoiner (c : Char) : Bool := c.toNat = 0x200D

/-- The selector that makes a curly quotation mark wide is the third. -/
def selector? (c : Char) : Option Selector :=
  if c.toNat = 0xFE0F then some .picture
  else if c.toNat = 0xFE0E then some .text
  else if c.toNat = 0xFE01 then some .quote
  else none

def isCurlyQuote (c : Char) : Bool := within [(0x2018, 0x2019), (0x201C, 0x201D)] c

def isAlef (c : Char) : Bool :=
  within [(0x622, 0x623), (0x625, 0x625), (0x627, 0x627), (0x671, 0x673), (0x675, 0x675),
    (0x773, 0x774), (0x870, 0x882)] c

def isLam (c : Char) : Bool :=
  within [(0x644, 0x644), (0x6B5, 0x6B8), (0x76A, 0x76A), (0x8A6, 0x8A6), (0x8C7, 0x8C7)] c

/-- Letters that can be drawn below the one before them. -/
def isCoengLetter (c : Char) : Bool :=
  within [(0x1780, 0x1782), (0x1784, 0x1787), (0x1789, 0x178C), (0x178E, 0x1793), (0x1795, 0x1798),
    (0x179B, 0x179D), (0x17A0, 0x17A0), (0x17A2, 0x17A2), (0x17A7, 0x17A7), (0x17AB, 0x17AC),
    (0x17AF, 0x17AF)] c

def isTifinagh (c : Char) : Bool := within [(0x2D31, 0x2D65), (0x2D6F, 0x2D6F)] c

/-- A letter joiner that shows when there is nothing to join. -/
def isTifinaghJoiner (c : Char) : Bool := c.toNat = 0x2D7F

/-- Joining jamo, prefixed consonants and signs that enclose the number behind
them. -/
def isPrefixed (c : Char) : Bool :=
  within [(0x605, 0x605), (0x70F, 0x70F), (0x890, 0x891), (0x8E2, 0x8E2), (0xD4E, 0xD4E),
    (0x1160, 0x11FF), (0xA8FA, 0xA8FA), (0xD7B0, 0xD7C6), (0xD7CB, 0xD7FB), (0x111C2, 0x111C3),
    (0x113D1, 0x113D1), (0x1193F, 0x1193F), (0x11941, 0x11941), (0x11A84, 0x11A89),
    (0x11D46, 0x11D46), (0x11F02, 0x11F02)] c

/-- An initial filler keeps the place of its syllable. -/
def isInitialFiller (c : Char) : Bool := c.toNat = 0x115F

def hasNoWidth (c : Char) : Bool :=
  (Marks.isMark c && !isTifinaghJoiner c) || (Marks.isIgnorable c && !isInitialFiller c) ||
    isPrefixed c

/-- Marks and format characters that do not come between two Arabic letters. -/
def isBetweenLetters (c : Char) : Bool :=
  hasNoWidth c && (Marks.isNonspacing c ||
    within [(0xAD, 0xAD), (0x61C, 0x61C), (0x70F, 0x70F), (0x200B, 0x200B), (0x200E, 0x200F),
      (0x202A, 0x202E), (0x2060, 0x2064), (0x206A, 0x206F), (0xFEFF, 0xFEFF), (0x1BCA0, 0x1BCA3),
      (0x1D173, 0x1D17A), (0xE0001, 0xE0001), (0xE0020, 0xE007F)] c)

/-- Ignorable marks, which do not come between the parts of other ligatures. -/
def isWithinLigature (c : Char) : Bool := Marks.isNonspacing c && Marks.isIgnorable c

def isPicture (c : Char) : Bool := within pictureRanges c

def takesPictureSelector (c : Char) : Bool := within selectableRanges c

/-- Pictures that are narrow as text; the enclosed ideographs stay wide. -/
def takesTextSelector (c : Char) : Bool :=
  within selectableRanges c && isPicture c && !isBetween c 0x1F200 0x1F2FF

/-- A character by itself, with what it means for the character before it. -/
def alone (c : Char) : Int × Following :=
  if c.toNat ≤ 0xA0 then (1, .of (if c = '\n' then lineFeed else plain))
  else if let some selector := selector? c then (0, Following.plain.select selector)
  else if hasNoWidth c then (0, .plain)
  else if isFlagLetter c then (1, .of flagLetter)
  else if isSkinTone c then (2, .of skinTone)
  else if isPicture c then (2, .of picture)
  else if within wideRanges c then (2, .plain)
  else if c.toNat = 0x17D8 then (3, .plain)
  else if isAlef c then (1, .of alef)
  else if c.toNat = 0x5DC then (1, .of (lamed false))
  else if isCoengLetter c then (1, .of coengLetter)
  else if c.toNat = 0x1A10 then (1, .of (buginese false))
  else if isTifinagh c then (1, .of (tifinagh false))
  else if isBetween c 0xA4FC 0xA4FD then (1, .of lisuTone)
  else if c.toNat = 0x10C03 then (1, .of (orkhon false))
  else if c.toNat = 0x16D67 then (1, .of kiratE)
  else if c.toNat = 0x16D68 then (1, .of kiratAi)
  else (1, .plain)

/-- The characters that are drawn together with what follows them. -/
def together (c : Char) : Neighbour → Option (Int × Neighbour)
  | alef =>
    if isLam c then some (0, plain) else if isBetweenLetters c then some (0, alef) else none
  | lamed true => if c.toNat = 0x5D0 then some (0, plain) else none
  | coengLetter => if c.toNat = 0x17D2 then some (-1, plain) else none
  | buginese true => if c.toNat = 0x1A17 then some (0, bugineseVowel) else none
  | bugineseVowel => if c.toNat = 0x1A15 then some (0, plain) else none
  | tifinagh joined =>
    if isTifinaghJoiner c then some (1, tifinaghJoiner)
    else if joined && isTifinagh c then some (0, plain)
    else none
  | tifinaghJoiner => if isTifinagh c then some (-1, plain) else none
  | lisuTone => if isBetween c 0xA4F8 0xA4FB then some (0, plain) else none
  | orkhon true => if c.toNat = 0x10C32 then some (0, plain) else none
  | kiratE =>
    if c.toNat = 0x16D63 || c.toNat = 0x16D69 then some (0, plain)
    else if c.toNat = 0x16D67 then some (0, kiratAi)
    else if c.toNat = 0x16D68 then some (1, kiratE)
    else none
  | kiratAi => if c.toNat = 0x16D63 then some (0, plain) else none
  | picture => if isJoiner c then some (0, joinedPicture) else none
  | skinTone =>
    if within modifierBaseRanges c then some (0, picture)
    else if isJoiner c then some (0, joinedPicture)
    else none
  | flagLetter => if isFlagLetter c then some (1, flagLetters) else none
  | flagLetters =>
    if isFlagLetter c then some (1, flagLetters)
    else if isJoiner c then some (0, joinedPicture)
    else none
  | joinedPicture =>
    if c.toNat = 0x20E3 then some (0, joinedKeycap)
    else if isFlagLetter c then some (1, joinedFlagLetter)
    else if isSkinTone c then some (0, skinTone)
    else if c.toNat = 0xE007F then some (0, tagLetters 0)
    else if isPicture c then some (0, picture)
    else none
  | joinedFlagLetter => if isFlagLetter c then some (-1, joinedFlagEven) else none
  | joinedFlagOdd =>
    if isFlagLetter c then some (-1, joinedFlagEven)
    else if isJoiner c then some (0, joinedPicture)
    else none
  | joinedFlagEven =>
    if isFlagLetter c then some (3, joinedFlagOdd)
    else if isJoiner c then some (0, joinedPicture)
    else none
  | tagLetters n =>
    if isTagLetter c && n < 6 then some (0, tagLetters (n + 1))
    else if isTagDigit c && n ≤ 4 then some (0, tagDigits 1)
    else if c.toNat = 0x1F3F4 && 3 ≤ n then some (0, picture)
    else none
  | tagDigits n =>
    if isTagDigit c && n < 3 then some (0, tagDigits (n + 1))
    else if c.toNat = 0x1F3F4 && n = 3 then some (0, picture)
    else none
  | _ => none

/-- A character in front of a neighbour without a selector between them. -/
def inFront (c : Char) (next : Neighbour) : Int × Following :=
  if next.isLigature && isJoiner c then (0, .of next.join)
  else if next.isLigature && isWithinLigature c then (0, .of next)
  else
    match together c next with
    | some (added, neighbour) => (added, .of neighbour)
    | none => alone c

/-- A character that takes the selector behind it hides what follows that. -/
def taken? (c : Char) (next : Following) : Option (Int × Following) :=
  match next.selector with
  | some .picture =>
    if takesPictureSelector c then
      some (if next.neighbour.isJoinedPicture then 0 else 2, .of picture)
    else none
  | some .text => if takesTextSelector c then some (1, .plain) else none
  | some .quote => if isCurlyQuote c then some (2, .plain) else none
  | none => none

/-- The columns a character adds in front of `next`. A sequence may take back
columns that its end was given. -/
def step (c : Char) (next : Following) : Int × Following :=
  match taken? c next with
  | some answer => answer
  | none =>
    -- A picture selector that nothing takes also ends a joined picture.
    let next := if next.selector = some .picture && !next.neighbour.keepsSelector then .plain
      else next
    if c.toNat ≤ 0xA0 then
      if c = '\r' && next = .of lineFeed then (0, .plain) else alone c
    else if let some selector := selector? c then (0, next.select selector)
    else inFront c next.neighbour

/-- The columns of a text without codes, read from its end. -/
def measure (cs : List Char) : Int × Following :=
  cs.foldr (fun c (total, next) =>
    let (added, before) := step c next
    (total + added, before)) (0, .plain)

def ofChars (cs : List Char) : Nat := (measure cs).1.toNat

end Columns

/-- Codes take no column, and what stands on their two sides is drawn as if
they were not there. -/
def columns (s : String) : Nat := Columns.ofChars (Ansi.strip s).toList

end SecretAccess.Text
