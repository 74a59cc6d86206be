import SecretAccess.Text.Ranges
import SecretAccess.Text.Letters.Ranges

/-!
# Letters and digits

The characters with the Alphabetic property, and the numbers.
-/

namespace SecretAccess.Text

def isAlphanumeric (c : Char) : Bool := within Letters.alphanumericRanges c

end SecretAccess.Text
