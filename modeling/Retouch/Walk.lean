import Retouch.Event
import Retouch.Query
import Retouch.Tree

/-!
# Walking a tree

A walk asks about each node before its children, siblings from left to right. A node for which
the query reports an edit owns its subtree, so the walk does not go below it. The first failure
ends the walk.
-/

namespace Retouch

/-- Who accompanies a walk. Both parts share one state: `ask` is the query, and `opening` is told
of each node whose children the walk goes on to. -/
structure Visitor (α σ ε : Type) where
  ask : Query (Tree α) σ ε
  opening : Tree α → σ → σ := fun _ state => state

structure Walked (σ ε : Type) where
  edits : List Edit
  visited : Nat
  state : σ
  failure : Option ε

namespace Walked

variable {σ ε : Type}

def events (w : Walked σ ε) : List Event :=
  w.edits.map Event.ofMatch ++
    match w.failure with
    | some _ => []
    | none => [.walkFinished w.visited w.edits.length]

def result (w : Walked σ ε) : Except ε (List Edit) :=
  match w.failure with
  | some error => .error error
  | none => .ok w.edits

def precededBy (w : Walked σ ε) (answer : Option Edit) : Walked σ ε :=
  { w with edits := answer.toList ++ w.edits, visited := w.visited + 1 }

end Walked

variable {α σ ε : Type}

/-- The walk over the siblings still to be asked about, the innermost ones first. -/
def walkFrom (v : Visitor α σ ε) : List (List (Tree α)) → σ → Walked σ ε
  | [], state => ⟨[], 0, state, none⟩
  | [] :: frames, state => walkFrom v frames state
  | (.node label children :: siblings) :: frames, state =>
    match v.ask (.node label children) state with
    | .error error state => ⟨[], 1, state, some error⟩
    | .ok (some edit) state => (walkFrom v (siblings :: frames) state).precededBy (some edit)
    | .ok none state =>
      let state := v.opening (.node label children) state
      let below := if children.isEmpty then siblings :: frames else children :: siblings :: frames
      (walkFrom v below state).precededBy none
termination_by frames => frames
decreasing_by
  · simp only [List.cons.sizeOf_spec]
    omega
  · simp only [List.cons.sizeOf_spec, Tree.node.sizeOf_spec]
    omega
  · split <;> simp only [List.cons.sizeOf_spec, Tree.node.sizeOf_spec] <;> omega

def walk (v : Visitor α σ ε) (tree : Tree α) (state : σ) : Walked σ ε :=
  walkFrom v [[tree]] state

end Retouch
