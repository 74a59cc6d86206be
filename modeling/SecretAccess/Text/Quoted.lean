import SecretAccess.Text.Marks
import SecretAccess.Text.Quoted.Ranges

/-!
# Quoted text

A text between double quotes in which everything that does not show for itself
is escaped: the double quote and the backslash, control and other unprintable
characters, fillers, and marks that would join the character before them.
-/

namespace SecretAccess.Text.Quoted

def isEscaped (c : Char) : Bool :=
  within unprintableRanges c || Marks.isMark c || Marks.isIgnorable c

def hexDigits (n : Nat) : String := String.ofList (Nat.toDigits 16 n)

/-- The number of a character between braces. -/
def numbered (c : Char) : String := "\\u\x7b" ++ hexDigits c.toNat ++ "\x7d"

def escapeChar : Char → String
  | '\x00' => "\\0"
  | '\t' => "\\t"
  | '\n' => "\\n"
  | '\r' => "\\r"
  | '"' => "\\\""
  | '\\' => "\\\\"
  | c => if isEscaped c then numbered c else c.toString

def quote (s : String) : String := "\"" ++ String.join (s.toList.map escapeChar) ++ "\""

end SecretAccess.Text.Quoted
