import Retouch.Parse.Node
import Retouch.Walk

/-!
# Passes over parse trees

A pass is a query that needs no state and cannot fail. It reports no change for the nodes it does
not care about, so passes can be joined.
-/

namespace Retouch.Parse

abbrev Pass := Tree → Option Edit

namespace Pass

def noChange : Pass := fun _ => none

/-- Puts `text` at the nodes that change. -/
def ofChanged (source text : Text) (changed : Tree → Option Placement) : Pass :=
  Query.ofParts (m := Id) changed (fun tree => tree.label.span source) fun _ => text

theorem ofChanged_apply (source text : Text) (changed : Tree → Option Placement) (tree : Tree) :
    ofChanged source text changed tree =
      (changed tree).map fun placement => ⟨placement, text, tree.label.span source⟩ := by
  unfold ofChanged Query.ofParts
  cases changed tree <;> rfl

def nameKinds : List String :=
  ["identifier", "type_identifier", "field_identifier", "shorthand_field_identifier"]

/-- Puts `new` in the place of every name spelled `old`. -/
def rename (source old new : Text) : Pass :=
  ofChanged source new fun tree =>
    if nameKinds.contains tree.label.kind && tree.label.text? source == some old then
      some .replace
    else none

/-- Inserts `text` at every item of kind `item` that is named `name`. -/
def annotate (source : Text) (item : String) (name text : Text) (placement : Placement) : Pass :=
  ofChanged source text fun tree =>
    if tree.label.kind == item then
      match childByField? "name" tree with
      | some child => if child.text? source == some name then some placement else none
      | none => none
    else none

def everyNode (source : Text) (kind : String) (text : Text) (placement : Placement) : Pass :=
  ofChanged source text fun tree => if tree.label.kind == kind then some placement else none

def firstOf (passes : List Pass) : Pass := fun tree => passes.findSome? (· tree)

def visitor {σ ε : Type} (pass : Pass) : Visitor Node σ ε where
  ask := fun tree => pure (pass tree)

end Pass

end Retouch.Parse
