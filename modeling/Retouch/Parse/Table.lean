import Retouch.Parse.Node

/-!
# Parse tables

A table lists the nodes of a tree, each before its children, with the number of its children. A
parser that runs elsewhere hands over its trees in this form.
-/

namespace Retouch.Parse

structure Row where
  node : Node
  children : Nat

/-- Reads a table from its end. The trees that have been read so far and have no parent yet are
in order, so the children of a node are the first of them. -/
def treesOfRows : List Row → List Tree
  | [] => []
  | row :: rows =>
    let trees := treesOfRows rows
    .node row.node (trees.take row.children) :: trees.drop row.children

def treeOfRows? (rows : List Row) : Option Tree :=
  match treesOfRows rows with
  | [tree] => some tree
  | _ => none

end Retouch.Parse
