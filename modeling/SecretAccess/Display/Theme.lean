import SecretAccess.Text.Ansi

/-!
# Themes

The plain theme writes text as it is. The rich theme puts icons in front of
labels and styles every text by what it stands for.
-/

namespace SecretAccess.Display

open Text (Style)

inductive Theme where
  | plain
  | rich
deriving DecidableEq, Repr

/-- What a text stands for. -/
inductive Role where
  | title
  | heading
  | user
  | machine
  | group
  | secret
  | direct
  | inherited
  | key
  | dim
deriving DecidableEq, Repr

/-- A colour comes before the attributes, and these in increasing order. -/
def Role.style : Role → Style
  | title => [34, 1]
  | heading => [1]
  | user => [36]
  | machine => [35]
  | group => [34]
  | secret => [31]
  | direct => [31, 1]
  | inherited => [33]
  | key => [2, 3]
  | dim => [2]

namespace Theme

def isRich : Theme → Bool
  | plain => false
  | rich => true

def paintWith (t : Theme) (style : Style) (text : String) : String :=
  match t with
  | plain => text
  | rich => style.paint text

def paint (t : Theme) (role : Role) (text : String) : String := t.paintWith role.style text

def icon (t : Theme) (picture : String) : String :=
  match t with
  | plain => ""
  | rich => picture ++ " "

def list (t : Theme) (role : Role) (names : List String) : String :=
  ", ".intercalate (names.map (t.paint role))

end Theme

end SecretAccess.Display
