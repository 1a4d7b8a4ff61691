import Retouch.Span
import Retouch.Text.Cut

/-!
# Edits

An edit inserts text before or after a span, or puts text in the place of the span.
-/

namespace Retouch

inductive Placement where
  | before
  | after
  | replace
deriving DecidableEq

def Placement.render : Placement → String
  | before => "before"
  | after => "after"
  | replace => "replace"

structure Edit where
  placement : Placement
  text : Text
  span : Span
deriving DecidableEq

namespace Edit

/-- Orders edits by span. Edits with the same span keep their order. -/
def sort (edits : List Edit) : List Edit :=
  edits.mergeSort fun a b => a.span ≤ b.span

/-- What stands in the output for a node whose text is `node`. -/
def render (e : Edit) (node : Text) : Text :=
  match e.placement with
  | .replace => e.text
  | .before => e.text ++ node
  | .after => node ++ e.text

end Edit

end Retouch
