import SecretAccess.Display.Table
import SecretAccess.Display.Theme
import SecretAccess.View

/-!
# The grant matrix as a table

One row for each declared secret, with the names it is granted to. An empty
list of names is shown by a dash.
-/

namespace SecretAccess.Display.Matrix

def cell (t : Theme) (role : Role) : List String → String
  | [] => "-"
  | names => t.list role names

def row (t : Theme) (r : GrantRow) : List String :=
  [t.paint .secret r.secret, cell t .user r.users, cell t .machine r.machines,
    cell t .group r.groups]

def table (t : Theme) (m : MatrixView) : Table :=
  ⟨["Secret", "Users", "Machines", "Groups"], m.rows.map (row t)⟩

def render (t : Theme) (m : MatrixView) : String :=
  t.icon "📊" ++ t.paint .title "Secret Access Matrix" ++ "\n" ++ (table t m).render

end SecretAccess.Display.Matrix
