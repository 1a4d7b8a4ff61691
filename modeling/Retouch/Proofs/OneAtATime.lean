import Retouch.Proofs.Strict

/-!
# Editing one at a time

Edits that pass both checks can be applied one after the other, the last one first, and give the
text of the single pass. An edit changes the text only from its lower bound on. It may join lines
or divide them there, but the edits in front of it still find their bounds where they were.
-/

namespace Retouch

theorem Edit.divide_append_left {e : Edit} {here : Position} {s : Text} (t : Text)
    (hlower : here.after s ≤ e.span.lower) (hproper : e.span.lower ≤ e.span.upper) :
    e.divide here (s ++ t) =
      ⟨s ++ (e.divide (here.after s) t).lead, (e.divide (here.after s) t).node,
        (e.divide (here.after s) t).rest⟩ := by
  have hupper : here.after s ≤ e.span.upper := hlower.trans hproper
  cases hplace : e.placement with
  | before => simp only [divide, hplace, cut_append t hlower]
  | replace => simp only [divide, hplace, cut_append t hlower]
  | after => simp only [divide, hplace, cut_append t hupper]

/-- What stands in front of all edits is copied. -/
theorem spliceFrom_append {here : Position} {s : Text} (t : Text) {edits : List Edit}
    (h : InOrder (here.after s) edits) :
    spliceFrom here (s ++ t) edits = s ++ spliceFrom (here.after s) t edits := by
  cases edits with
  | nil => rfl
  | cons e edits =>
    obtain ⟨hlower, hproper, -⟩ := h
    rw [spliceFrom, spliceFrom, Edit.divide_append_left t hlower hproper]
    simp only [List.append_assoc]

/-- A proper span of positions of the text divides the text into three. -/
theorem exists_pieces {source : Text} {s : Span} (hproper : s.lower ≤ s.upper)
    (hlower : HasPosition source s.lower) (hupper : HasPosition source s.upper) :
    ∃ gap node rest, source = gap ++ node ++ rest ∧ s.lower = Position.start.after gap ∧
      s.upper = s.lower.after node := by
  obtain ⟨j, hj, hlowerAt⟩ := hlower
  obtain ⟨k, hk, hupperAt⟩ := hupper
  rw [← hlowerAt, ← hupperAt] at hproper ⊢
  have hjk : j ≤ k := (positionAt_le_iff hj hk).1 hproper
  refine ⟨source.take j, source.extract j k, source.drop k, ?_, rfl, ?_⟩
  · rw [List.append_assoc, extract_append_drop source hjk, List.take_append_drop]
  · rw [positionAt_after_extract source hjk]

/-- One step: the edits behind `d` leave everything up to its upper bound as it was. So `d` passes
the checks on the text they make, and does there what it does in the single pass. -/
theorem splice_cons {source : Text} {d : Edit} {ds : List Edit}
    (horder : InOrder .start (d :: ds)) (hlower : HasPosition source d.span.lower)
    (hupper : HasPosition source d.span.upper) :
    check .strict (splice ds source) [d] = .ok () ∧
      splice (d :: ds) source = splice [d] (splice ds source) := by
  obtain ⟨-, hproper, hrest⟩ := horder
  obtain ⟨gap, node, rest, rfl, hgap, hnode⟩ := exists_pieces hproper hlower hupper
  have hwhole : d.span.upper = Position.start.after (gap ++ node) := by
    rw [hnode, hgap, Position.after_append]
  have hbehind : splice ds (gap ++ node ++ rest) =
      gap ++ node ++ spliceFrom d.span.upper rest ds := by
    rw [hwhole] at hrest ⊢
    exact spliceFrom_append rest hrest
  rw [hbehind]
  constructor
  · apply check_singleton_eq_ok
    · rw [hgap, List.append_assoc]
      exact hasPosition_after_append gap _
    · rw [hwhole]
      exact hasPosition_after_append (gap ++ node) _
  · have hbatch : splice (d :: ds) (gap ++ node ++ rest) =
        gap ++ d.render node ++ spliceFrom d.span.upper rest ds := spliceFrom_cons hgap hnode
    have hsingle : splice [d] (gap ++ node ++ spliceFrom d.span.upper rest ds) =
        gap ++ d.render node ++ spliceFrom d.span.upper rest ds := spliceFrom_cons hgap hnode
    rw [hbatch, hsingle]

/-- The whole run: each step meets the text that the edits behind it have made. -/
theorem splice_eq_foldr {source : Text} {edits : List Edit} (horder : InOrder .start edits)
    (hbounds : ∀ e ∈ edits, HasPosition source e.span.lower ∧ HasPosition source e.span.upper) :
    splice edits source = edits.foldr (fun e text => splice [e] text) source := by
  induction edits with
  | nil => rfl
  | cons d ds ih =>
    obtain ⟨hlower, hupper⟩ := hbounds d List.mem_cons_self
    have hrest : InOrder .start ds := horder.2.2.mono (Position.start_le _)
    have hds := ih hrest fun e he => hbounds e (List.mem_cons_of_mem d he)
    rw [(splice_cons horder hlower hupper).2, hds, List.foldr_cons]

/-- Of edits in order that pass both checks, the first passes them alone on the text that the others
make, and applying it there gives what all of them give together. So a single pass is the edits
applied one at a time, from the last to the first. -/
theorem splice_eq_last_to_first (source : Text) (d : Edit) (ds : List Edit)
    (hsorted : (d :: ds).Pairwise fun a b => a.span ≤ b.span)
    (hproper : ∀ e ∈ d :: ds, e.span.lower ≤ e.span.upper)
    (hcheck : check .strict source (d :: ds) = .ok ()) :
    check .strict (splice ds source) [d] = .ok () ∧
      splice (d :: ds) source = splice [d] (splice ds source) ∧
      splice (d :: ds) source = (d :: ds).foldr (fun e text => splice [e] text) source := by
  obtain ⟨horder, hbounds⟩ := inOrder_of_check hsorted hproper hcheck
  obtain ⟨hlower, hupper⟩ := hbounds d List.mem_cons_self
  obtain ⟨hsingle, hstep⟩ := splice_cons horder hlower hupper
  exact ⟨hsingle, hstep, splice_eq_foldr horder hbounds⟩

/-- The first line, which gets a mark, the newline behind it, which goes away, and an insertion at
the start of the second line. -/
def joinedLines : List Edit :=
  [⟨.before, ['<'], .ofZeroBased 0 0, .ofZeroBased 0 2⟩,
    ⟨.replace, [], .ofZeroBased 0 2, .ofZeroBased 1 0⟩,
    ⟨.after, ['\n', '>'], .point (.ofZeroBased 1 0)⟩]

theorem splice_joinedLines :
    ∃ source out : Text, source = ['a', 'b', '\n', 'c'] ∧
      out = ['<', 'a', 'b', '\n', '>', 'c'] ∧
      joinedLines.Pairwise (fun a b => a.span ≤ b.span) ∧
      (∀ e ∈ joinedLines, e.span.lower ≤ e.span.upper) ∧
      check .strict source joinedLines = .ok () ∧ splice joinedLines source = out ∧
      check .strict (splice joinedLines.tail source) [⟨.before, ['<'], .ofZeroBased 0 0,
        .ofZeroBased 0 2⟩] = .ok () ∧
      joinedLines.foldr (fun e text => splice [e] text) source = out := by
  have hsorted : joinedLines.Pairwise fun a b => a.span ≤ b.span := by decide
  have hproper : ∀ e ∈ joinedLines, e.span.lower ≤ e.span.upper := by decide
  have hcheck : check .strict ['a', 'b', '\n', 'c'] joinedLines = .ok () := by decide
  have hout : splice joinedLines ['a', 'b', '\n', 'c'] = ['<', 'a', 'b', '\n', '>', 'c'] := by
    decide
  obtain ⟨hsingle, -, hfold⟩ := splice_eq_last_to_first _ _ _ hsorted hproper hcheck
  exact ⟨_, _, rfl, rfl, hsorted, hproper, hcheck, hout, hsingle, hfold.symm.trans hout⟩

end Retouch
