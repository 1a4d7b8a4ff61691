import Retouch.Edit

/-!
# Events

What a walk and a splice report while they run.
-/

namespace Retouch

inductive Event where
  | matching (placement : Placement) (span : Span)
  | walkFinished (visited found : Nat)
  | collected (edits : Nat)
  | splicing (placement : Placement) (span : Span)
deriving DecidableEq

namespace Event

def ofMatch (e : Edit) : Event := .matching e.placement e.span

def ofSplice (e : Edit) : Event := .splicing e.placement e.span

def render : Event → String
  | matching placement span => s!"TRACE matched node kind={placement.render} span={span.render}"
  | walkFinished visited found =>
    s!"TRACE tree walk finished visited={visited} matched={found}"
  | collected edits => s!"DEBUG collected directives directives={edits}"
  | splicing placement span =>
    s!"TRACE splicing directive kind={placement.render} span={span.render}"

end Event

end Retouch
