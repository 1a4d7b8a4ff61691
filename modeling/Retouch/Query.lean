import Retouch.Edit

/-!
# Queries

A query is asked about a node and answers with an edit or with no change. It may read and update
a state of its own, and it may fail.
-/

namespace Retouch

abbrev Query (ν σ ε : Type) := ν → EStateM ε σ (Option Edit)

namespace Query

variable {ν σ ε : Type}

def noChange : Query ν σ ε := fun _ => pure none

/-- A query made of three questions, in any monad. Only a node that changes is rendered and located,
in this order. -/
def ofParts {m : Type → Type} [Monad m] (changed : ν → m (Option Placement)) (span : ν → m Span)
    (render : ν → m Text) : ν → m (Option Edit) := fun node => do
  match ← changed node with
  | none => return none
  | some placement =>
    let text ← render node
    let span ← span node
    return some ⟨placement, text, span⟩

/-- Asks `second` about the nodes for which `first` reports no change. -/
def orElse (first second : Query ν σ ε) : Query ν σ ε := fun node => do
  match ← first node with
  | some edit => return some edit
  | none => second node

def firstOf : List (Query ν σ ε) → Query ν σ ε
  | [] => noChange
  | [query] => query
  | query :: queries => orElse query (firstOf queries)

/-- Takes a failure for no change. -/
def quiet (query : Query ν σ ε) : Query ν σ Empty := fun node state =>
  match query node state with
  | .ok answer state => .ok answer state
  | .error _ state => .ok none state

end Query

end Retouch
