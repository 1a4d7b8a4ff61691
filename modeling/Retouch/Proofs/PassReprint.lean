import Mathlib.Data.List.Chain
import Retouch.Parse.Pass
import Retouch.Proofs.NodeSpan
import Retouch.Proofs.Strict

/-!
# Passes over a tree that fits its text

Renaming and annotating over a tree that fits the text rewrites the byte ranges of the outermost
nodes that match, in the order of the tree, and leaves every other byte as it is. The checks have
nothing to refuse.
-/

namespace Retouch.Parse

/-- The passes that there are names for. -/
inductive Refactoring where
  | rename (old new : Text)
  | annotate (item : String) (name text : Text) (placement : Placement)

def Refactoring.pass (source : Text) : Refactoring → Pass
  | rename old new => .rename source old new
  | annotate item name text placement => .annotate source item name text placement

theorem rename_eq_some_iff {source old new : Text} {tree : Tree} {e : Edit} :
    Pass.rename source old new tree = some e ↔
      tree.label.kind ∈ Pass.nameKinds ∧ tree.label.text? source = some old ∧
        e = ⟨.replace, new, tree.label.span source⟩ := by
  rw [Pass.rename, Pass.ofChanged_apply, Option.map_eq_some_iff]
  simp only [Option.ite_none_right_eq_some, Bool.and_eq_true, List.contains_iff_mem, beq_iff_eq,
    Option.some.injEq, and_assoc, @eq_comm _ e, exists_and_left, exists_eq_left']

theorem span_of_ofChanged {source text : Text} {changed : Tree → Option Placement} {tree : Tree}
    {e : Edit} (h : Pass.ofChanged source text changed tree = some e) :
    e.span = tree.label.span source := by
  rw [Pass.ofChanged_apply] at h
  obtain ⟨placement, -, rfl⟩ := Option.map_eq_some_iff.1 h
  rfl

/-- The edits of these passes stand at the node that was asked about. -/
theorem Refactoring.span_of_pass {source : Text} {r : Refactoring} {tree : Tree} {e : Edit}
    (h : r.pass source tree = some e) : e.span = tree.label.span source := by
  cases r with
  | rename old new =>
    rw [pass, Pass.rename] at h
    exact span_of_ofChanged h
  | annotate item name text placement =>
    rw [pass, Pass.annotate] at h
    exact span_of_ofChanged h

theorem span_of_firstOf {source : Text} {refactorings : List Refactoring} {tree : Tree} {e : Edit}
    (h : Pass.firstOf (refactorings.map (Refactoring.pass source)) tree = some e) :
    e.span = tree.label.span source := by
  obtain ⟨pass, hpass, hanswer⟩ := List.exists_of_findSome?_eq_some h
  obtain ⟨r, -, rfl⟩ := List.mem_map.1 hpass
  exact Refactoring.span_of_pass hanswer

variable {σ ε : Type}

/-- The passes joined to one query, which asks them in order until one reports a change. -/
def joined (passes : List Pass) : Visitor Node σ ε where
  ask := Query.firstOf (passes.map fun pass => pass.visitor.ask)

theorem firstOf_cons (pass : Pass) (passes : List Pass) (tree : Tree) :
    Pass.firstOf (pass :: passes) tree = (pass tree).or (Pass.firstOf passes tree) := by
  rw [Pass.firstOf, List.findSome?_cons]
  cases pass tree <;> rfl

theorem orElse_pure {ν : Type} (first second : ν → Option Edit) :
    Query.orElse (fun node => pure (first node)) (fun node => pure (second node)) =
      (fun node => pure ((first node).or (second node)) : Query ν σ ε) := by
  funext node state
  cases hfirst : first node <;> simp only [Query.orElse, hfirst] <;> rfl

theorem joined_eq_ofAnswer (passes : List Pass) :
    (joined passes : Visitor Node σ ε) = .ofAnswer (Pass.firstOf passes) := by
  have hask : Query.firstOf (passes.map fun pass => (pass.visitor : Visitor Node σ ε).ask) =
      fun tree => pure (Pass.firstOf passes tree) := by
    induction passes with
    | nil => rfl
    | cons pass passes ih =>
      simp only [firstOf_cons]
      cases passes with
      | nil =>
        funext tree
        change pure (pass tree) = pure ((pass tree).or none)
        rw [Option.or_none]
      | cons next passes =>
        change Query.orElse (fun tree => pure (pass tree)) (Query.firstOf _) = _
        rw [ih, orElse_pure]
  rw [joined, hask]
  rfl

/-- The rewriting of a node's bytes that an edit stands for. -/
def byteRange (found : Tree × Edit) : RangeEdit UInt8 :=
  ⟨found.1.label.startByte, found.1.label.stopByte, found.2.placement, bytes found.2.text⟩

theorem ascending_flatMap {trees : List Tree} {ranges : Tree → List (RangeEdit UInt8)}
    {lo hi : Nat} (hle : lo ≤ hi)
    (hchain : trees.IsChain fun before after => before.label.stopByte ≤ after.label.startByte)
    (hfirst : ∀ t ∈ trees.head?, lo ≤ t.label.startByte)
    (hlast : ∀ t ∈ trees, t.label.stopByte ≤ hi)
    (hranges : ∀ t ∈ trees, Ascending t.label.startByte t.label.stopByte (ranges t)) :
    Ascending lo hi (trees.flatMap ranges) := by
  induction trees generalizing lo with
  | nil => exact hle
  | cons t trees ih =>
    rw [List.flatMap_cons]
    have hhead := (hranges t List.mem_cons_self).mono (hfirst t rfl) le_rfl
    refine hhead.append (ih (hlast t List.mem_cons_self) hchain.tail ?_ ?_ ?_)
    · exact fun next hnext => hchain.rel_head? hnext
    · exact fun t' ht' => hlast t' (List.mem_cons_of_mem t ht')
    · exact fun t' ht' => hranges t' (List.mem_cons_of_mem t ht')

/-- The outermost matches lie one after the other inside the tree. -/
theorem ascending_outermost {source : Text} (answer : Tree → Option Edit) {tree : Tree}
    (h : Fits source tree) :
    Ascending tree.label.startByte tree.label.stopByte
      ((outermost answer tree).map byteRange) := by
  induction tree using Tree.induct with
  | node label children ih =>
    have hself := Retouch.Tree.mem_subtrees_self (Retouch.Tree.node label children)
    have hnode := (h.node _ hself).start_le_stop
    rw [outermost_node]
    cases answer (.node label children) with
    | some edit => exact ⟨le_refl _, hnode, le_refl _⟩
    | none =>
      dsimp only
      rw [List.map_flatMap]
      apply ascending_flatMap hnode (h.apart _ hself)
      · intro child hchild
        exact (h.inside _ hself child (List.mem_of_mem_head? hchild)).1
      · exact fun child hchild => (h.inside _ hself child hchild).2
      · exact fun child hchild => ih child hchild (h.child hchild)

theorem exists_charRanges (source : Text) (found : List (Tree × Edit))
    (h : ∀ m ∈ found, m.1.label.Fits source ∧ m.2.span = m.1.label.span source) :
    ∃ ranges : List (RangeEdit Char),
      found.map Prod.snd = ranges.map (RangeEdit.toEdit source) ∧
      found.map byteRange = ranges.map (RangeEdit.toBytes source) ∧
      ∀ r ∈ ranges, r.lower ≤ source.length ∧ r.upper ≤ source.length := by
  induction found with
  | nil => exact ⟨[], rfl, rfl, by simp⟩
  | cons m found ih =>
    obtain ⟨ranges, hedits, hbytes, hbounds⟩ := ih fun m' hm' => h m' (List.mem_cons_of_mem m hm')
    obtain ⟨hfits, hspan⟩ := h m List.mem_cons_self
    obtain ⟨lower, hlower, hlowerByte, hlowerAt⟩ := hfits.start.exists_offset
    obtain ⟨upper, hupper, hupperByte, hupperAt⟩ := hfits.stop.exists_offset
    refine ⟨⟨lower, upper, m.2.placement, m.2.text⟩ :: ranges, ?_, ?_, ?_⟩
    · have hedit : m.2 = ⟨m.2.placement, m.2.text, m.1.label.span source⟩ := by rw [← hspan]
      rw [List.map_cons, List.map_cons, hedits, RangeEdit.toEdit, hlowerAt, hupperAt, hedit]
      rfl
    · rw [List.map_cons, List.map_cons, hbytes, byteRange, RangeEdit.toBytes, hlowerByte,
        hupperByte]
    · exact List.forall_mem_cons.2 ⟨⟨hlower, hupper⟩, hbounds⟩

theorem Fits.ascending {source : Text} (answer : Tree → Option Edit) {tree : Tree}
    (h : Fits source tree) :
    Ascending 0 (byteSize source) ((outermost answer tree).map byteRange) := by
  obtain ⟨k, hk, hbyte, -⟩ :=
    (h.node _ (Retouch.Tree.mem_subtrees_self tree)).stop.exists_offset
  apply (ascending_outermost answer h).mono (Nat.zero_le _)
  rw [← hbyte, ← byteAt_length]
  exact byteAt_mono source hk

/-- The outermost matches as range edits, once in characters and once in bytes. -/
theorem Fits.exists_ranges {source : Text} {answer : Tree → Option Edit} {tree : Tree}
    (h : Fits source tree)
    (hspan : ∀ t e, answer t = some e → e.span = t.label.span source) :
    ∃ ranges : List (RangeEdit Char),
      (outermost answer tree).map Prod.snd = ranges.map (RangeEdit.toEdit source) ∧
      (outermost answer tree).map byteRange = ranges.map (RangeEdit.toBytes source) ∧
      Ascending 0 source.length ranges := by
  obtain ⟨ranges, hedits, hbytes, hbounds⟩ := exists_charRanges source (outermost answer tree)
    fun m hm => ⟨h.node _ (mem_outermost hm).1, hspan _ _ (mem_outermost hm).2⟩
  refine ⟨ranges, hedits, hbytes, ascending_of_toBytes (Nat.zero_le _) hbounds ?_⟩
  rw [← hbytes]
  exact h.ascending answer

end Retouch.Parse
