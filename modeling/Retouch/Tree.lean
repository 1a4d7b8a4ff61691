/-!
# Trees

Finite trees with a label at each node and the children in order.
-/

namespace Retouch

inductive Tree (α : Type) where
  | node (label : α) (children : List (Tree α))

namespace Tree

variable {α : Type}

def label : Tree α → α
  | node label _ => label

def children : Tree α → List (Tree α)
  | node _ children => children

mutual

/-- The subtrees of a tree, itself first, in the order in which their roots are met. -/
def subtrees : Tree α → List (Tree α)
  | node label children => node label children :: subtreesOf children

def subtreesOf : List (Tree α) → List (Tree α)
  | [] => []
  | tree :: trees => subtrees tree ++ subtreesOf trees

end

@[simp] theorem label_node (a : α) (ts : List (Tree α)) : (node a ts).label = a := rfl

@[simp] theorem children_node (a : α) (ts : List (Tree α)) : (node a ts).children = ts := rfl

end Tree

end Retouch
