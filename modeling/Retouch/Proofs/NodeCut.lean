import Retouch.Proofs.NodeSpan
import Retouch.Proofs.Outcome

/-!
# Cutting a node out of its text

A node is located in bytes and its span counts characters. Cutting the text at the bounds of the
span goes back to bytes: it takes the bytes before the node, then those of the node.
-/

namespace Retouch.Parse

/-- The bounds of a node's span are the positions of offsets that have the node's bytes before
them. -/
theorem Node.Fits.exists_offsets {source : Text} {node : Node} (h : node.Fits source) :
    ∃ j k, j ≤ k ∧ k ≤ source.length ∧
      byteAt source j = node.startByte ∧ byteAt source k = node.stopByte ∧
      positionAt source j = (node.span source).lower ∧
      positionAt source k = (node.span source).upper := by
  obtain ⟨j, hj, hstart, hlower⟩ := h.start.exists_offset
  obtain ⟨k, hk, hstop, hupper⟩ := h.stop.exists_offset
  have hle : byteAt source j ≤ byteAt source k := by
    rw [hstart, hstop]
    exact h.start_le_stop
  exact ⟨j, k, le_of_byteAt_le hj hle, hk, hstart, hstop, hlower, hupper⟩

/-- The span of a node that fits has its bounds in order. A cut at the lower bound takes the bytes
before the node, and a second one at the upper bound takes the bytes of the node, which are what
the passes read as its text. Both cuts end at their bounds, and the bounds pass every check. -/
theorem node_span_cuts_bytes {source : Text} {node : Node} (h : node.Fits source) :
    ∃ (span : Span) (before text rest : Text),
      span = node.span source ∧ span.lower ≤ span.upper ∧
      cut .start span.lower source = ⟨before, text ++ rest, span.lower⟩ ∧
      bytes before = (bytes source).take node.startByte ∧
      cut span.lower span.upper (text ++ rest) = ⟨text, rest, span.upper⟩ ∧
      bytes text = (bytes source).extract node.startByte node.stopByte ∧
      node.text? source = some text ∧
      ∀ (settings : Settings) (placement : Placement) (inserted : Text),
        check settings source [⟨placement, inserted, span⟩] = .ok () := by
  obtain ⟨j, k, hjk, hk, hstart, hstop, hlower, hupper⟩ := h.exists_offsets
  have hj : j ≤ source.length := hjk.trans hk
  refine ⟨node.span source, source.take j, source.extract j k, source.drop k, rfl, ?_⟩
  rw [← hlower, ← hupper, ← hstart, ← hstop, extract_append_drop source hjk]
  refine ⟨(positionAt_le_iff hj hk).2 hjk, cut_positionAt source (Nat.zero_le j),
    bytes_take source j, cut_positionAt source hjk, bytes_extract source hjk, ?_, ?_⟩
  · rw [Node.text?, ← hstart, ← hstop, byteSlice?_byteAt source hjk]
  · intro settings placement inserted
    apply check_singleton_eq_ok
    · exact ⟨j, hj, hlower⟩
    · exact ⟨k, hk, hupper⟩

def wideText : Text := ['é', 'a', '\n', 'ñ', 'b']

/-- The second character of the first line to the first of the second, with a wider character in
front of either bound. -/
def wideNode : Node := ⟨"block", none, 2, 6, ⟨0, 2⟩, ⟨1, 2⟩, .sound⟩

theorem wideNode_cuts_bytes :
    ∃ before text rest : Text,
      wideNode.Fits wideText ∧
      wideNode.span wideText = ⟨.ofZeroBased 0 1, .ofZeroBased 1 1⟩ ∧
      cut .start (.ofZeroBased 0 1) wideText = ⟨before, text ++ rest, .ofZeroBased 0 1⟩ ∧
      cut (.ofZeroBased 0 1) (.ofZeroBased 1 1) (text ++ rest) =
        ⟨text, rest, .ofZeroBased 1 1⟩ ∧
      bytes before = (bytes wideText).take 2 ∧
      bytes text = (bytes wideText).extract 2 6 ∧
      check .strict wideText [⟨.after, [], .ofZeroBased 0 1, .ofZeroBased 1 1⟩] = .ok () := by
  have hfits : wideNode.Fits wideText := by decide
  have hspan : wideNode.span wideText = ⟨.ofZeroBased 0 1, .ofZeroBased 1 1⟩ := by decide
  obtain ⟨_, before, text, rest, rfl, -, hfirst, hbefore, hsecond, htext, -, hcheck⟩ :=
    node_span_cuts_bytes hfits
  rw [hspan] at hfirst hsecond hcheck
  exact ⟨before, text, rest, hfits, hspan, hfirst, hsecond, hbefore, htext, hcheck _ _ _⟩

end Retouch.Parse
