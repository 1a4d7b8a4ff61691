import Retouch.Span
import Retouch.Text.Bytes
import Retouch.Tree

/-!
# Parse trees

What a parser says about a text. Nodes are located by bytes and by points, that is rows and
columns from zero with columns in bytes. `Node.span` gives the same place in characters.
-/

namespace Retouch.Parse

structure Point where
  row : Nat
  column : Nat
deriving DecidableEq

/-- Whether a node stands for text that fits the grammar, text that does not, or text that the
parser had to assume. -/
inductive Health where
  | sound
  | error
  | missing
deriving DecidableEq

structure Node where
  kind : String
  /-- The role of the node in its parent. -/
  field : Option String
  startByte : Nat
  stopByte : Nat
  startPoint : Point
  stopPoint : Point
  health : Health
deriving DecidableEq

abbrev Tree := Retouch.Tree Node

/-- The position of a byte whose point is `point`. The column is counted in characters over the
bytes of the line before it, and taken as it is where those bytes are no piece of the text. -/
def position (source : Text) (byte : Nat) (point : Point) : Position :=
  match byteSlice? source (byte - point.column) byte with
  | some line => .ofZeroBased point.row line.length
  | none => .ofZeroBased point.row point.column

namespace Node

def span (source : Text) (node : Node) : Span :=
  ⟨position source node.startByte node.startPoint, position source node.stopByte node.stopPoint⟩

/-- The text of a node, if its bytes are a piece of `source`. -/
def text? (source : Text) (node : Node) : Option Text :=
  byteSlice? source node.startByte node.stopByte

def isDamaged (node : Node) : Bool := node.health != .sound

end Node

/-- The first child that has the role `field`. -/
def childByField? (field : String) (tree : Tree) : Option Node :=
  (tree.children.map Tree.label).find? fun node => node.field == some field

/-- The nodes of a tree, each before its children. -/
def nodes (tree : Tree) : List Node := tree.subtrees.map Tree.label

end Retouch.Parse
