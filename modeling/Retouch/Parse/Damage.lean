import Retouch.Parse.Node

/-!
# Damaged texts

A text is damaged where its parse tree has nodes that do not fit the grammar. Reprinting moves
bytes, so damage before and after is compared by the number of such nodes: a damaged text may
stay as it is, but it may not get worse.
-/

namespace Retouch.Parse

def damagedNodes (tree : Tree) : List Node := (nodes tree).filter Node.isDamaged

inductive Damage where
  | single (start stop : Nat)
  | several (count : Nat)
deriving DecidableEq

def Damage.message : Damage → String
  | single start stop => s!"syntax error detected at byte {start}..{stop}"
  | several count => s!"multiple syntax errors detected: {count} ERROR nodes"

def assess : List Node → Except Damage Unit
  | [] => .ok ()
  | [node] => .error (.single node.startByte node.stopByte)
  | nodes => .error (.several nodes.length)

/-- Accepts a text whose tree has no damaged node. -/
def validate (parse : Text → Tree) (text : Text) : Except Damage Unit :=
  assess (damagedNodes (parse text))

/-- Accepts a reprint that has no more damaged nodes than the text it was made from. -/
def validateReprint (parse : Text → Tree) (source reprinted : Text) : Except Damage Unit :=
  let before := damagedNodes (parse source)
  let after := damagedNodes (parse reprinted)
  if after.length ≤ before.length then .ok () else assess after

end Retouch.Parse
