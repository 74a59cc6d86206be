import SecretAccess.Config
import SecretAccess.Display.Theme
import SecretAccess.KeyFile
import SecretAccess.Report
import SecretAccess.Text.Quoted

/-!
# The log

What a run may report on the side. Every event comes from a part of the program
and has a level and a message with named values.
-/

namespace SecretAccess.Log

open Host (Fault)

inductive Level where
  | error
  | warn
  | info
  | debug
  | trace
deriving DecidableEq, Repr

namespace Level

def rank : Level → Nat
  | error => 1
  | warn => 2
  | info => 3
  | debug => 4
  | trace => 5

/-- The name in five columns, to the right. -/
def padded : Level → String
  | error => "ERROR"
  | warn => " WARN"
  | info => " INFO"
  | debug => "DEBUG"
  | trace => "TRACE"

def colour : Level → Nat
  | error => 31
  | warn => 33
  | info => 32
  | debug => 34
  | trace => 35

end Level

inductive Event where
  | noConfig
  | loadingConfig (path : String)
  | validatingConfig
  | configLoaded (root : Option String) (keyTypes : Nat)
  | scanning (root : String) (chosen : Selection)
  | directorySkipped (path : String) (f : Fault)
  | nameSkipped (path : String)
  | keyFileLoaded (path : String) (keys : Nat)
  | keyFileSkipped (e : KeyFile.Error)
  | scanComplete (root : String) (users machines groups secrets : Nat)
  | resolved (principals groups secrets records : Nat)
  | rendering (view : String)
  | runningGraphviz (program : String) (format : GraphFormat)
  | sourceWritten (path : String)
  | graphRendered (path : String)
  | graphExported (path : String)
deriving DecidableEq, Repr

def truth (b : Bool) : String := if b then "true" else "false"

def describe (s : Selection) : String :=
  "Selection \x7b tree: " ++ truth s.tree ++ ", matrix: " ++ truth s.matrix ++ ", keys: " ++
    truth s.keys ++ ", graph: " ++ truth s.graph ++ " \x7d"

def describeRoot : Option String → String
  | none => "None"
  | some root => "Some(" ++ Text.Quoted.quote root ++ ")"

namespace Event

def level : Event → Level
  | keyFileLoaded .. | runningGraphviz .. => .trace
  | directorySkipped .. | nameSkipped _ | keyFileSkipped _ => .warn
  | graphExported _ => .info
  | noConfig | loadingConfig _ | validatingConfig | configLoaded .. | scanning ..
  | scanComplete .. | resolved .. | rendering _ | sourceWritten _ | graphRendered _ => .debug

/-- The message of an event; `detail` words a defect of a JSON text. -/
def message (detail : Json.Defect → String) : Event → String
  | noConfig => "no config file, using defaults"
  | loadingConfig _ => "loading config"
  | validatingConfig => "validating config"
  | configLoaded .. => "config loaded"
  | scanning .. => "scanning"
  | directorySkipped _ f => "skipping unreadable directory: " ++ f.message
  | nameSkipped _ => "skipping entry with non-UTF-8 name"
  | keyFileLoaded .. => "key file loaded"
  | keyFileSkipped e => e.message detail
  | scanComplete .. => "scan complete"
  | resolved .. => "hierarchy resolved"
  | rendering _ => "rendering"
  | runningGraphviz .. => "rendering with graphviz"
  | sourceWritten _ => "wrote dot source"
  | graphRendered _ => "rendered graph"
  | graphExported _ => "graph exported"

def values : Event → List (String × String)
  | noConfig | validatingConfig | keyFileSkipped _ => []
  | loadingConfig path | directorySkipped path _ | nameSkipped path | sourceWritten path
  | graphRendered path | graphExported path => [("path", path)]
  | configLoaded root keyTypes => [("root", describeRoot root), ("key_types", keyTypes.repr)]
  | scanning root chosen => [("root", root), ("selection", describe chosen)]
  | keyFileLoaded path keys => [("path", path), ("keys", keys.repr)]
  | scanComplete root users machines groups secrets =>
    [("root", root), ("users", users.repr), ("machines", machines.repr), ("groups", groups.repr),
      ("secrets", secrets.repr)]
  | resolved principals groups secrets records =>
    [("principals", principals.repr), ("groups", groups.repr), ("secrets", secrets.repr),
      ("records", records.repr)]
  | rendering view => [("view", "\"" ++ view ++ "\"")]
  | runningGraphviz program format => [("bin", program), ("format", format.extension)]

/-- The names of what an event carries, its message among them. -/
def names (e : Event) : List String := "message" :: e.values.map Prod.fst

/-- The part of the program that reports an event. -/
def origin : Event → String
  | noConfig | loadingConfig _ | validatingConfig | configLoaded .. => "sops_acl::core::config"
  | scanning .. | rendering _ | graphExported _ => "sops_acl::cli::view"
  | directorySkipped .. | nameSkipped _ | scanComplete .. => "sops_acl::core::scan"
  | keyFileLoaded .. | keyFileSkipped _ => "sops_acl::core::keyfile"
  | resolved .. => "sops_acl::core::hierarchy"
  | runningGraphviz .. | sourceWritten _ | graphRendered _ => "sops_acl::render::graph"

end Event

/-- Control characters of a message do not reach the terminal. -/
def escapeChar : Char → String
  | '\x1b' => "\\x1b"
  | '\x07' => "\\x07"
  | '\x08' => "\\x08"
  | '\x0c' => "\\x0c"
  | '\x7f' => "\\x7f"
  | c =>
    if 0x80 ≤ c.toNat && c.toNat ≤ 0x9F then Text.Quoted.numbered c else c.toString

def escape (s : String) : String := String.join (s.toList.map escapeChar)

def value (t : Display.Theme) (v : String × String) : String :=
  " " ++ t.paintWith [3] v.1 ++ t.paintWith [2] "=" ++ v.2

def line (detail : Json.Defect → String) (t : Display.Theme) (e : Event) : String :=
  t.paintWith [e.level.colour] e.level.padded ++ " " ++ escape (e.message detail) ++
    String.join (e.values.map (value t)) ++ "\n"

end SecretAccess.Log
