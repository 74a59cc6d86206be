import SecretAccess.Display.Theme
import SecretAccess.View

/-!
# Notices

The lines that tell of success and failure, and the block of counts at the end
of a run.
-/

namespace SecretAccess.Display.Notice

def path (t : Theme) (p : String) : String := t.paintWith [36] p

def success (t : Theme) (text : String) : String := t.paintWith [32] "✓" ++ " " ++ text ++ "\n"

def failure (t : Theme) (text : String) : String := t.paintWith [31] "✗" ++ " " ++ text ++ "\n"

def warning (t : Theme) (text : String) : String := t.paintWith [33] "⚠" ++ " " ++ text ++ "\n"

def hint (t : Theme) (text : String) : String :=
  t.paintWith [36] "→" ++ " " ++ t.paintWith [36] text ++ "\n"

def labelWidth : Nat := 15

def ruleWidth : Nat := 40

def padLabel (label : String) : String :=
  label ++ String.ofList (List.replicate (labelWidth - label.length) ' ')

def count (t : Theme) (label : String) (n : Nat) : String :=
  "  " ++ t.paintWith [2] (padLabel label) ++ "  " ++ t.paintWith [1] n.repr ++ "\n"

def summary (t : Theme) (s : Summary) : String :=
  t.paintWith [1] "Summary" ++ "\n" ++
    t.paintWith [2] (String.ofList (List.replicate ruleWidth '─')) ++ "\n" ++
    count t "Users" s.users ++
    count t "Machines" s.machines ++
    count t "Groups" s.groups ++
    count t "Secrets" s.secrets ++
    count t "User grants" s.userGrants ++
    count t "Machine grants" s.machineGrants ++
    count t "Group grants" s.groupGrants ++
    count t "Access records" s.accessRecords

end SecretAccess.Display.Notice
