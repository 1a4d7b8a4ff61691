import Retouch.Splice

/-!
# What a splice keeps

A splice trusts the bounds of its edits, but whatever they are, unordered, overlapping, inverted or
out of the text, it goes through the text once. The edits divide the text among them, each gets a
lead and a node, and the output is these in order with the texts of the edits put in. So no
character of the text is moved or doubled, and only a replacement leaves some out.
-/

namespace Retouch

/-- The share of an edit in a text: what is copied in front of its node, and its node. -/
structure Share where
  edit : Edit
  lead : Text
  node : Text

/-- A run of characters of the output with its origin. -/
inductive Fragment where
  | copied (text : Text)
  | inserted (text : Text)

namespace Fragment

def text : Fragment → Text
  | copied text => text
  | inserted text => text

def copiedText : Fragment → Text
  | copied text => text
  | inserted _ => []

def insertedText? : Fragment → Option Text
  | copied _ => none
  | inserted text => some text

end Fragment

namespace Share

def original (s : Share) : Text := s.lead ++ s.node

def output (s : Share) : Text := s.lead ++ s.edit.render s.node

/-- What stays of the original. -/
def kept (s : Share) : Text := s.lead ++ if s.edit.placement = .replace then [] else s.node

def fragments (s : Share) : List Fragment :=
  .copied s.lead ::
    match s.edit.placement with
    | .replace => [.inserted s.edit.text]
    | .before => [.inserted s.edit.text, .copied s.node]
    | .after => [.copied s.node, .inserted s.edit.text]

theorem flatMap_text_fragments (s : Share) : s.fragments.flatMap Fragment.text = s.output := by
  rw [fragments, output, Edit.render]
  cases s.edit.placement <;> simp [Fragment.text]

theorem filterMap_insertedText?_fragments (s : Share) :
    s.fragments.filterMap Fragment.insertedText? = [s.edit.text] := by
  rw [fragments]
  cases s.edit.placement <;> rfl

theorem flatMap_copiedText_fragments (s : Share) :
    s.fragments.flatMap Fragment.copiedText = s.kept := by
  rw [fragments, kept]
  cases s.edit.placement <;> simp [Fragment.copiedText]

theorem kept_sublist_original (s : Share) : s.kept.Sublist s.original := by
  rw [kept, original]
  apply List.Sublist.append_left
  split
  · exact List.nil_sublist s.node
  · exact List.Sublist.refl s.node

theorem kept_eq_original {s : Share} (h : s.edit.placement ≠ .replace) : s.kept = s.original := by
  rw [kept, original, if_neg h]

end Share

/-- One edit divides what remains of the text, and the rest goes to the edits after it. The cursor
says where the cuts fall, but plays no part in what is kept. -/
theorem exists_shares (cursor : Position) (text : Text) (edits : List Edit) :
    ∃ (shares : List Share) (tail : Text),
      shares.map Share.edit = edits ∧ text = shares.flatMap Share.original ++ tail ∧
        spliceFrom cursor text edits = shares.flatMap Share.output ++ tail := by
  induction edits generalizing cursor text with
  | nil => exact ⟨[], text, rfl, rfl, rfl⟩
  | cons e edits ih =>
    obtain ⟨shares, tail, hedits, hrest, hsplice⟩ := ih e.span.upper (e.divide cursor text).rest
    have hdivide := e.divide_append cursor text
    refine ⟨⟨e, (e.divide cursor text).lead, (e.divide cursor text).node⟩ :: shares, tail,
      ?_, ?_, ?_⟩
    · rw [List.map_cons, hedits]
    · rw [List.flatMap_cons, Share.original, List.append_assoc, ← hrest, hdivide]
    · rw [spliceFrom, hsplice, List.flatMap_cons, Share.output]
      simp only [List.append_assoc]

theorem flatMap_kept_sublist (shares : List Share) :
    (shares.flatMap Share.kept).Sublist (shares.flatMap Share.original) := by
  induction shares with
  | nil => exact List.Sublist.refl []
  | cons s shares ih =>
    rw [List.flatMap_cons, List.flatMap_cons]
    exact s.kept_sublist_original.append ih

theorem flatMap_kept_eq {shares : List Share} (h : ∀ s ∈ shares, s.edit.placement ≠ .replace) :
    shares.flatMap Share.kept = shares.flatMap Share.original := by
  induction shares with
  | nil => rfl
  | cons s shares ih =>
    obtain ⟨hs, hshares⟩ := List.forall_mem_cons.1 h
    rw [List.flatMap_cons, List.flatMap_cons, Share.kept_eq_original hs, ih hshares]

/-- Whatever the edits, the text is divided among them, a lead and a node for each and a tail at the
end, and the output is the leads, the nodes as their edits render them, and the tail. In the output
each edit's text is inserted once, in the order of the edits, and what is copied is the text without
the nodes that are replaced. If none is, taking the inserted texts out gives the text back. -/
theorem splice_conserves_text (edits : List Edit) (source : Text) :
    ∃ (shares : List Share) (tail : Text) (fragments : List Fragment),
      shares.map Share.edit = edits ∧
      source = shares.flatMap Share.original ++ tail ∧
      splice edits source = shares.flatMap Share.output ++ tail ∧
      fragments = shares.flatMap Share.fragments ++ [.copied tail] ∧
      fragments.flatMap Fragment.text = splice edits source ∧
      fragments.filterMap Fragment.insertedText? = edits.map Edit.text ∧
      fragments.flatMap Fragment.copiedText = shares.flatMap Share.kept ++ tail ∧
      (fragments.flatMap Fragment.copiedText).Sublist source ∧
      ((∀ e ∈ edits, e.placement ≠ .replace) →
        fragments.flatMap Fragment.copiedText = source) := by
  obtain ⟨shares, tail, rfl, rfl, hsplice⟩ := exists_shares .start source edits
  have hcopied : (shares.flatMap Share.fragments ++ [Fragment.copied tail]).flatMap
      Fragment.copiedText = shares.flatMap Share.kept ++ tail := by
    simp only [List.flatMap_append, List.flatMap_assoc, Share.flatMap_copiedText_fragments,
      List.flatMap_singleton, Fragment.copiedText]
  refine ⟨shares, tail, _, rfl, rfl, hsplice, rfl, ?_, ?_, hcopied, ?_, ?_⟩
  · rw [splice, hsplice]
    simp only [List.flatMap_append, List.flatMap_assoc, Share.flatMap_text_fragments,
      List.flatMap_singleton, Fragment.text]
  · have htail : [Fragment.copied tail].filterMap Fragment.insertedText? = [] := rfl
    simp only [List.filterMap_append, List.filterMap_flatMap,
      Share.filterMap_insertedText?_fragments, htail, List.append_nil, List.map_map]
    exact List.map_eq_flatMap.symm
  · rw [hcopied]
    exact (flatMap_kept_sublist shares).append_right tail
  · intro hkeep
    rw [List.forall_mem_map] at hkeep
    rw [hcopied, flatMap_kept_eq hkeep]

-- The first edit is inverted, and the second starts again before the place where the first stopped.
example : splice [⟨.after, ['!'], .ofZeroBased 0 3, .ofZeroBased 0 1⟩,
    ⟨.before, ['?'], .ofZeroBased 0 0, .ofZeroBased 0 2⟩] ['a', 'b', 'c'] =
      ['a', '!', '?', 'b', 'c'] := by decide

end Retouch
