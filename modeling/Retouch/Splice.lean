import Retouch.Edit

/-!
# Splicing edits into a text

One pass over the text and the edits together. Text outside the edits is copied, and what follows
the last edit is appended. The pass trusts the order of the edits: after each one it stands at the
edit's upper bound, wherever the text ran out.
-/

namespace Retouch

/-- How an edit divides the text still to be copied. -/
structure Piece where
  lead : Text
  node : Text
  rest : Text

/-- An insertion after a span needs only its upper bound, so all text up to there is lead. -/
def Edit.divide (e : Edit) (cursor : Position) (text : Text) : Piece :=
  match e.placement with
  | .after =>
    let whole := cut cursor e.span.upper text
    ⟨whole.taken, [], whole.rest⟩
  | .before | .replace =>
    let lead := cut cursor e.span.lower text
    let node := cut e.span.lower e.span.upper lead.rest
    ⟨lead.taken, node.taken, node.rest⟩

def spliceFrom (cursor : Position) (text : Text) : List Edit → Text
  | [] => text
  | e :: edits =>
    let piece := e.divide cursor text
    piece.lead ++ e.render piece.node ++ spliceFrom e.span.upper piece.rest edits

def splice (edits : List Edit) (text : Text) : Text :=
  spliceFrom .start text edits

theorem Edit.divide_append (e : Edit) (cursor : Position) (text : Text) :
    (e.divide cursor text).lead ++ (e.divide cursor text).node ++ (e.divide cursor text).rest =
      text := by
  unfold divide
  split <;> simp [taken_append_rest]

@[simp] theorem splice_nil (text : Text) : splice [] text = text := rfl

end Retouch
