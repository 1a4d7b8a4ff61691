import Mathlib.Data.List.DropRight
import Mathlib.Data.List.Infix
import Retouch.Parse.Node
import Retouch.Proofs.Bytes
import Retouch.Proofs.Outermost

/-!
# Where a parse tree stands in its text

A tree fits a text if each node starts and stops between two characters, the points of the node
are the rows and byte columns of these places, and the nodes are nested and in order. The span of
a node that fits has the positions of its first and last byte, counted in characters.
-/

namespace Retouch

/-- A position in terms of the text before it: its line counts the newlines, its column the
characters after the last one. -/
theorem Position.start_after_eq (text : Text) :
    Position.start.after text =
      .ofZeroBased (text.count '\n') (text.rtakeWhile (· != '\n')).length := by
  induction text using List.reverseRecOn with
  | nil => rfl
  | append_singleton text c ih =>
    have hstep : Position.start.after (text ++ [c]) = (Position.start.after text).advance c := by
      rw [Position.after_append]
      rfl
    rw [hstep, ih, List.count_append]
    by_cases hc : c = '\n'
    · subst hc
      rw [List.rtakeWhile_concat_neg _ _ _ (by decide)]
      rfl
    · rw [List.rtakeWhile_concat_pos _ _ _ (by simpa using hc), List.length_append,
        List.count_singleton, if_neg (by simpa using hc), Position.advance, if_neg hc]
      rfl

namespace Parse

/-- The row and the byte column of the place after a text. -/
def pointAfter (text : Text) : Point :=
  ⟨text.count '\n', byteSize (text.rtakeWhile (· != '\n'))⟩

/-- The byte stands between two characters of `source`, and its point is `point`. -/
def Locates (source : Text) (byte : Nat) (point : Point) : Prop :=
  ∃ before, before <+: source ∧ byteSize before = byte ∧ pointAfter before = point

instance (source : Text) (byte : Nat) (point : Point) : Decidable (Locates source byte point) :=
  decidable_of_iff (∃ before ∈ source.inits, byteSize before = byte ∧ pointAfter before = point)
    (exists_congr fun before => and_congr_left' (List.mem_inits before source))

/-- The position of a byte counts characters over the part of its line that stands before it. -/
theorem position_pointAfter {source before : Text} (h : before <+: source) :
    position source (byteSize before) (pointAfter before) = Position.start.after before := by
  obtain ⟨rest, rfl⟩ := h
  have hline : byteSlice? (before ++ rest) (byteSize before - (pointAfter before).column)
      (byteSize before) = some (before.rtakeWhile (· != '\n')) := by
    obtain ⟨above, habove⟩ := List.rtakeWhile_suffix (fun c => c != '\n') before
    rw [pointAfter]
    generalize before.rtakeWhile (fun c => c != '\n') = line at habove ⊢
    subst habove
    rw [byteSize_append, Nat.add_sub_cancel, ← byteSize_append, List.append_assoc,
      byteSlice?_append]
  rw [position, hline, Position.start_after_eq]
  rfl

theorem Locates.exists_offset {source : Text} {byte : Nat} {point : Point}
    (h : Locates source byte point) :
    ∃ k ≤ source.length, byteAt source k = byte ∧
      positionAt source k = position source byte point := by
  obtain ⟨before, hprefix, rfl, rfl⟩ := h
  refine ⟨before.length, hprefix.length_le, ?_, ?_⟩
  · rw [byteAt, ← List.prefix_iff_eq_take.1 hprefix]
  · rw [position_pointAfter hprefix, positionAt, ← List.prefix_iff_eq_take.1 hprefix]

/-- A node that stands at a piece of the text, with the points of its first and last byte. -/
structure Node.Fits (source : Text) (node : Node) : Prop where
  start : Locates source node.startByte node.startPoint
  stop : Locates source node.stopByte node.stopPoint
  start_le_stop : node.startByte ≤ node.stopByte

instance (source : Text) (node : Node) : Decidable (node.Fits source) :=
  decidable_of_iff (Locates source node.startByte node.startPoint ∧
      Locates source node.stopByte node.stopPoint ∧ node.startByte ≤ node.stopByte)
    ⟨fun ⟨start, stop, hle⟩ => ⟨start, stop, hle⟩, fun ⟨start, stop, hle⟩ => ⟨start, stop, hle⟩⟩

/-- What a parser promises of the tree of a text: every node stands at a piece of the text, inside
its parent and after the siblings before it. -/
structure Fits (source : Text) (tree : Tree) : Prop where
  node : ∀ t ∈ tree.subtrees, t.label.Fits source
  inside : ∀ t ∈ tree.subtrees, ∀ child ∈ t.children,
    t.label.startByte ≤ child.label.startByte ∧ child.label.stopByte ≤ t.label.stopByte
  apart : ∀ t ∈ tree.subtrees,
    t.children.IsChain fun before after => before.label.stopByte ≤ after.label.startByte

instance (source : Text) (tree : Tree) : Decidable (Fits source tree) :=
  decidable_of_iff
    ((∀ t ∈ tree.subtrees, t.label.Fits source) ∧
      (∀ t ∈ tree.subtrees, ∀ child ∈ t.children,
        t.label.startByte ≤ child.label.startByte ∧ child.label.stopByte ≤ t.label.stopByte) ∧
      ∀ t ∈ tree.subtrees,
        t.children.IsChain fun before after => before.label.stopByte ≤ after.label.startByte)
    ⟨fun ⟨node, inside, apart⟩ => ⟨node, inside, apart⟩,
      fun ⟨node, inside, apart⟩ => ⟨node, inside, apart⟩⟩

theorem Fits.child {source : Text} {label : Node} {children : List Tree} {child : Tree}
    (h : Fits source (.node label children)) (hchild : child ∈ children) : Fits source child := by
  have hsub : ∀ t ∈ child.subtrees, t ∈ Retouch.Tree.subtrees (.node label children) :=
    fun t ht => Retouch.Tree.mem_subtrees_node.2 (Or.inr ⟨child, hchild, ht⟩)
  exact ⟨fun t ht => h.node t (hsub t ht), fun t ht => h.inside t (hsub t ht),
    fun t ht => h.apart t (hsub t ht)⟩

end Parse

end Retouch
