import SecretAccess.Text.Ranges
import SecretAccess.Text.Marks.Ranges

/-!
# Marks and ignorable characters

Marks extend the character before them, and ignorable characters do not show
at all. The halfwidth sound marks are letters here: they have a column of
their own and show as they are.
-/

namespace SecretAccess.Text.Marks

def isNonspacing (c : Char) : Bool := within nonspacingRanges c

def isMark (c : Char) : Bool := isNonspacing c || within spacingRanges c

def isIgnorable (c : Char) : Bool := within ignorableRanges c

end SecretAccess.Text.Marks
