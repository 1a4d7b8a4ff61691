import Retouch.Proofs.Visit

/-!
# The outermost nodes that change

For a query that needs no state and cannot fail, a walk brings back its answers at the outermost
nodes that change, from left to right.
-/

namespace Retouch

variable {α σ ε : Type}

namespace Tree

@[elab_as_elim]
theorem induct {motive : Tree α → Prop}
    (node : ∀ label children, (∀ child ∈ children, motive child) → motive (.node label children)) :
    ∀ tree, motive tree
  | .node label children => node label children fun child _ => induct node child

theorem mem_subtreesOf {t : Tree α} {trees : List (Tree α)} :
    t ∈ subtreesOf trees ↔ ∃ tree ∈ trees, t ∈ tree.subtrees := by
  induction trees with
  | nil => simp [subtreesOf]
  | cons tree trees ih => simp [subtreesOf, ih]

theorem mem_subtrees_node {t : Tree α} {label : α} {children : List (Tree α)} :
    t ∈ (node label children).subtrees ↔
      t = node label children ∨ ∃ child ∈ children, t ∈ child.subtrees := by
  rw [subtrees, List.mem_cons, mem_subtreesOf]

theorem mem_subtrees_self (tree : Tree α) : tree ∈ tree.subtrees := by
  cases tree with
  | node label children => exact mem_subtrees_node.2 (Or.inl rfl)

end Tree

mutual

/-- The outermost nodes with an answer, and their answers. -/
def outermost (answer : Tree α → Option Edit) : Tree α → List (Tree α × Edit)
  | .node label children =>
    match answer (.node label children) with
    | some edit => [(.node label children, edit)]
    | none => outermostOf answer children

def outermostOf (answer : Tree α → Option Edit) : List (Tree α) → List (Tree α × Edit)
  | [] => []
  | tree :: trees => outermost answer tree ++ outermostOf answer trees

end

theorem outermostOf_eq_flatMap (answer : Tree α → Option Edit) (trees : List (Tree α)) :
    outermostOf answer trees = trees.flatMap (outermost answer) := by
  induction trees with
  | nil => rw [outermostOf, List.flatMap_nil]
  | cons tree trees ih => rw [outermostOf, ih, List.flatMap_cons]

theorem outermost_node (answer : Tree α → Option Edit) (label : α) (children : List (Tree α)) :
    outermost answer (.node label children) =
      match answer (.node label children) with
      | some edit => [(.node label children, edit)]
      | none => children.flatMap (outermost answer) := by
  rw [outermost, outermostOf_eq_flatMap]

theorem mem_outermost {answer : Tree α → Option Edit} {tree t : Tree α} {edit : Edit}
    (h : (t, edit) ∈ outermost answer tree) : t ∈ tree.subtrees ∧ answer t = some edit := by
  induction tree using Tree.induct with
  | node label children ih =>
    rw [outermost_node] at h
    cases hanswer : answer (.node label children) with
    | some found =>
      rw [hanswer] at h
      obtain ⟨rfl, rfl⟩ := Prod.mk.inj (List.mem_singleton.1 h)
      exact ⟨Tree.mem_subtrees_self _, hanswer⟩
    | none =>
      rw [hanswer] at h
      obtain ⟨child, hchild, hmem⟩ := List.mem_flatMap.1 h
      obtain ⟨ht, hedit⟩ := ih child hchild hmem
      exact ⟨Tree.mem_subtrees_node.2 (Or.inr ⟨child, hchild, ht⟩), hedit⟩

/-- The visitor of a query that needs no state and cannot fail. -/
def Visitor.ofAnswer (answer : Tree α → Option Edit) : Visitor α σ ε where
  ask := fun tree => pure (answer tree)

/-- The visitor of trees that are labelled with their edits. -/
def Visitor.ofLabels : Visitor (Option Edit) Unit Empty := .ofAnswer Tree.label

theorem visitAll_ofAnswer {answer : Tree α → Option Edit} {trees : List (Tree α)}
    (h : ∀ tree ∈ trees, ∀ state : σ, visit (ε := ε) (.ofAnswer answer) tree state =
      .ok ((outermost answer tree).map Prod.snd) state) (state : σ) :
    visitAll (ε := ε) (.ofAnswer answer) trees state =
      .ok ((trees.flatMap (outermost answer)).map Prod.snd) state := by
  induction trees with
  | nil => exact visitAll_nil _ state
  | cons tree trees ih =>
    have hrest := ih fun tree' htree' => h tree' (List.mem_cons_of_mem tree htree')
    rw [visitAll_cons, h tree List.mem_cons_self state]
    dsimp only
    rw [hrest, withFound, List.flatMap_cons, List.map_append]

theorem visit_ofAnswer (answer : Tree α → Option Edit) (tree : Tree α) (state : σ) :
    visit (ε := ε) (.ofAnswer answer) tree state =
      .ok ((outermost answer tree).map Prod.snd) state := by
  induction tree using Tree.induct generalizing state with
  | node label children ih =>
    have hask : (Visitor.ofAnswer answer : Visitor α σ ε).ask (.node label children) state =
        .ok (answer (.node label children)) state := rfl
    rw [visit_node, hask, outermost_node]
    cases answer (.node label children) with
    | some edit => rfl
    | none => exact visitAll_ofAnswer ih state

theorem result_walk_ofAnswer (answer : Tree α → Option Edit) (tree : Tree α) (state : σ) :
    (walk (ε := ε) (.ofAnswer answer) tree state).result =
      .ok ((outermost answer tree).map Prod.snd) := by
  have h := toResult_walk (ε := ε) (.ofAnswer answer) tree state
  rw [visit_ofAnswer] at h
  unfold Walked.toResult at h
  rw [Walked.result_eq_ok_iff]
  cases hfailure : (walk (ε := ε) (.ofAnswer answer) tree state).failure with
  | none =>
    rw [hfailure] at h
    exact ⟨rfl, (EStateM.Result.ok.inj h).1⟩
  | some error =>
    rw [hfailure] at h
    cases h

end Retouch
