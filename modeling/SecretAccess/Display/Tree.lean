/-!
# Trees of lines

A tree is drawn with one line for each node, parents before children. In front
of its label a line shows, for each ancestor below the root, whether that
ancestor has a later sibling, and then its own connector.
-/

namespace SecretAccess.Display

inductive Tree where
  | node (label : String) (children : List Tree)
deriving Repr, Inhabited

namespace Tree

def leaf (label : String) : Tree := .node label []

def label : Tree → String
  | .node label _ => label

def children : Tree → List Tree
  | .node _ children => children

def connector (isLast : Bool) : String := if isLast then "└── " else "├── "

/-- What a node puts in front of the lines of its children. -/
def margin (isLast : Bool) : String := if isLast then "    " else "│   "

mutual
def branchLines (lead : String) (isLast : Bool) : Tree → List String
  | .node label children =>
    (lead ++ connector isLast ++ label) :: forestLines (lead ++ margin isLast) children
def forestLines (lead : String) : List Tree → List String
  | [] => []
  | tree :: trees => branchLines lead trees.isEmpty tree ++ forestLines lead trees
end

def lines : Tree → List String
  | .node label children => label :: forestLines "" children

def render (t : Tree) : String := String.join (t.lines.map (· ++ "\n"))

end Tree

end SecretAccess.Display
