import SecretAccess.Graph

/-!
# The graph in the DOT language

Nodes stand in one cluster for each kind that has any, then all edges. Names
go into quoted strings, where a quote and a backslash are escaped, so that no
name can end its string.
-/

namespace SecretAccess.Dot

def escapeChar : Char → List Char
  | '\\' => ['\\', '\\']
  | '"' => ['\\', '"']
  | c => [c]

def escape (s : String) : String := String.ofList (s.toList.flatMap escapeChar)

def quote (s : String) : String := "\"" ++ escape s ++ "\""

def clusterName : NodeKind → String
  | .user => "users"
  | .machine => "machines"
  | .group => "groups"
  | .secret => "secrets"

def clusterLabel : NodeKind → String
  | .user => "Users"
  | .machine => "Machines"
  | .group => "Groups"
  | .secret => "Secrets"

def nodeStyle : NodeKind → String
  | .user => "shape=ellipse, fillcolor=lightblue"
  | .machine => "shape=box, fillcolor=lightyellow"
  | .group => "shape=diamond, fillcolor=lightgreen"
  | .secret => "shape=cylinder, fillcolor=lightcoral"

/-- The name, and the key preview on a line of its own. -/
def label (n : Node) : String :=
  match n.keyPreview with
  | none => escape n.name
  | some preview => escape n.name ++ "\\n[" ++ escape preview ++ "]"

def nodeLine (n : Node) : String :=
  "    " ++ quote n.id ++ " [label=\"" ++ label n ++ "\", " ++ nodeStyle n.kind ++ "];\n"

def cluster (g : Graph) (kind : NodeKind) : String :=
  match g.nodesOf kind with
  | [] => ""
  | nodes =>
    "\n  subgraph cluster_" ++ clusterName kind ++ " \x7b\n    label=\"" ++ clusterLabel kind ++
      "\";\n    style=filled;\n    color=lightgrey;\n" ++ String.join (nodes.map nodeLine) ++
      "  \x7d\n"

def edgeStyle : EdgeKind → NodeKind → String
  | .member, .machine => "label=\"member\", color=orange"
  | .member, _ => "label=\"member\", color=blue"
  | .access, .user => "label=\"access\", color=green, style=dashed"
  | .access, .machine => "label=\"access\", color=purple, style=dashed"
  | .access, _ => "label=\"access\", color=darkgreen, style=bold"

def edgeLine (e : Edge) : String :=
  "  " ++ quote e.start ++ " -> " ++ quote e.target ++ " [" ++ edgeStyle e.kind e.source ++ "];\n"

def opening : String :=
  "digraph SOPS_Hierarchy \x7b\n  rankdir=TB;\n  node [shape=box, style=\"rounded,filled\"];\n"

def edges (g : Graph) : String :=
  match g.edges with
  | [] => ""
  | edges => "\n" ++ String.join (edges.map edgeLine)

def render (g : Graph) : String :=
  opening ++ String.join (NodeKind.all.map (cluster g)) ++ edges g ++ "\x7d\n"

end SecretAccess.Dot
