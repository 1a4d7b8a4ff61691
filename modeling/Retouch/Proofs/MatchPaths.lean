import Retouch.Proofs.Outermost

/-!
# The paths of the outermost matches

A node is named by its path, the indices of the children that lead to it. Prefixes of a path name
the ancestors of the node. A walk with a query that needs no state and cannot fail brings back the
answers at the paths that have an answer while no proper prefix has one, in the lexicographic order
of the paths.
-/

namespace Retouch

variable {α σ ε : Type}

/-- The subtree that a path leads to. -/
def Tree.at? : Tree α → List Nat → Option (Tree α)
  | tree, [] => some tree
  | tree, i :: path => tree.children[i]?.bind fun child => child.at? path

/-- The answer at the node that a path leads to. -/
def answerAt (answer : Tree α → Option Edit) (tree : Tree α) (path : List Nat) : Option Edit :=
  (tree.at? path).bind answer

/-- The node has an answer and none of its proper ancestors has one. -/
structure IsOutermost (answer : Tree α → Option Edit) (tree : Tree α) (path : List Nat) : Prop where
  answers : (answerAt answer tree path).isSome
  above : ∀ p, p <+: path → p ≠ path → answerAt answer tree p = none

section

variable {answer : Tree α → Option Edit}

theorem answerAt_nil (tree : Tree α) : answerAt answer tree [] = answer tree := rfl

theorem answerAt_cons (tree : Tree α) (i : Nat) (path : List Nat) :
    answerAt answer tree (i :: path) =
      tree.children[i]?.bind fun child => answerAt answer child path := by
  rw [answerAt, Tree.at?, Option.bind_assoc]
  rfl

theorem isOutermost_nil {tree : Tree α} : IsOutermost answer tree [] ↔ (answer tree).isSome := by
  constructor
  · exact fun h => h.answers
  · intro h
    refine ⟨h, fun p hp hne => ?_⟩
    exact absurd (List.prefix_nil.1 hp) hne

theorem isOutermost_cons {tree : Tree α} {i : Nat} {path : List Nat} :
    IsOutermost answer tree (i :: path) ↔
      answer tree = none ∧ ∃ child, tree.children[i]? = some child ∧
        IsOutermost answer child path := by
  constructor
  · rintro ⟨hanswers, habove⟩
    have hroot : answer tree = none := habove [] List.nil_prefix (List.cons_ne_nil i path).symm
    rw [answerAt_cons] at hanswers
    cases hchild : tree.children[i]? with
    | none => simp [hchild] at hanswers
    | some child =>
      rw [hchild] at hanswers
      refine ⟨hroot, child, rfl, hanswers, fun p hp hne => ?_⟩
      have hprefix : i :: p <+: i :: path := List.cons_prefix_cons.2 ⟨rfl, hp⟩
      have hnone := habove (i :: p) hprefix (by simpa using hne)
      rwa [answerAt_cons, hchild] at hnone
  · rintro ⟨hroot, child, hchild, hanswers, habove⟩
    constructor
    · rwa [answerAt_cons, hchild]
    · intro p hp hne
      rcases List.prefix_cons_iff.1 hp with rfl | ⟨q, rfl, hq⟩
      · exact hroot
      · rw [answerAt_cons, hchild]
        exact habove q hq (by simpa using hne)

end

mutual

/-- The paths of the outermost nodes with an answer, from left to right. -/
def matchPaths (answer : Tree α → Option Edit) : Tree α → List (List Nat)
  | .node label children =>
    match answer (.node label children) with
    | some _ => [[]]
    | none => matchPathsFrom answer 0 children

/-- The same for siblings, of which the first has the index `i`. -/
def matchPathsFrom (answer : Tree α → Option Edit) (i : Nat) : List (Tree α) → List (List Nat)
  | [] => []
  | tree :: trees => (matchPaths answer tree).map (i :: ·) ++ matchPathsFrom answer (i + 1) trees

end

section

variable {answer : Tree α → Option Edit}

theorem matchPaths_node (label : α) (children : List (Tree α)) :
    matchPaths answer (.node label children) =
      match answer (.node label children) with
      | some _ => [[]]
      | none => matchPathsFrom answer 0 children := by
  rw [matchPaths]

theorem mem_matchPathsFrom {i : Nat} {trees : List (Tree α)} {path : List Nat} :
    path ∈ matchPathsFrom answer i trees ↔
      ∃ j tree below, trees[j]? = some tree ∧ below ∈ matchPaths answer tree ∧
        path = (i + j) :: below := by
  induction trees generalizing i with
  | nil => simp [matchPathsFrom]
  | cons tree trees ih =>
    rw [matchPathsFrom, List.mem_append, List.mem_map, ih]
    constructor
    · rintro (⟨below, hbelow, rfl⟩ | ⟨j, t, below, ht, hbelow, rfl⟩)
      · exact ⟨0, tree, below, rfl, hbelow, rfl⟩
      · exact ⟨j + 1, t, below, ht, hbelow, by rw [Nat.add_assoc, Nat.add_comm 1 j]⟩
    · rintro ⟨j, t, below, ht, hbelow, rfl⟩
      cases j with
      | zero =>
        obtain rfl := Option.some.inj ht
        exact Or.inl ⟨below, hbelow, rfl⟩
      | succ j =>
        exact Or.inr ⟨j, t, below, ht, hbelow, by rw [Nat.add_assoc, Nat.add_comm 1 j]⟩

theorem mem_matchPaths {tree : Tree α} {path : List Nat} :
    path ∈ matchPaths answer tree ↔ IsOutermost answer tree path := by
  induction tree using Tree.induct generalizing path with
  | node label children ih =>
    rw [matchPaths_node]
    cases hanswer : answer (.node label children) with
    | some edit =>
      cases path with
      | nil => simp [isOutermost_nil, hanswer]
      | cons i path => simp [isOutermost_cons, hanswer]
    | none =>
      cases path with
      | nil => simp [isOutermost_nil, hanswer, mem_matchPathsFrom]
      | cons i path =>
        rw [isOutermost_cons, mem_matchPathsFrom, Tree.children_node]
        constructor
        · rintro ⟨j, child, below, hchild, hbelow, hpath⟩
          obtain ⟨rfl, rfl⟩ := List.cons.inj hpath
          rw [Nat.zero_add]
          exact ⟨hanswer, child, hchild, (ih child (List.mem_of_getElem? hchild)).1 hbelow⟩
        · rintro ⟨-, child, hchild, hbelow⟩
          refine ⟨i, child, path, hchild, (ih child (List.mem_of_getElem? hchild)).2 hbelow, ?_⟩
          rw [Nat.zero_add]

theorem pairwise_matchPathsFrom (i : Nat) {trees : List (Tree α)}
    (h : ∀ tree ∈ trees, (matchPaths answer tree).Pairwise (· < ·)) :
    (matchPathsFrom answer i trees).Pairwise (· < ·) := by
  induction trees generalizing i with
  | nil => exact List.Pairwise.nil
  | cons tree trees ih =>
    obtain ⟨htree, htrees⟩ := List.forall_mem_cons.1 h
    rw [matchPathsFrom, List.pairwise_append]
    refine ⟨?_, ih (i + 1) htrees, ?_⟩
    · rw [List.pairwise_map]
      exact htree.imp fun hlt => List.cons_lt_cons_iff.2 (Or.inr ⟨rfl, hlt⟩)
    · intro p hp q hq
      obtain ⟨p, -, rfl⟩ := List.mem_map.1 hp
      obtain ⟨j, -, q, -, -, rfl⟩ := mem_matchPathsFrom.1 hq
      exact List.cons_lt_cons_iff.2 (Or.inl (by omega))

theorem pairwise_matchPaths (tree : Tree α) : (matchPaths answer tree).Pairwise (· < ·) := by
  induction tree using Tree.induct with
  | node label children ih =>
    rw [matchPaths_node]
    cases answer (.node label children) with
    | some edit => exact List.pairwise_singleton _ _
    | none => exact pairwise_matchPathsFrom 0 ih

/-- The siblings `trees` are the children of a node from the index `i` on. -/
theorem map_answerAt_matchPathsFrom {label : α} {children : List (Tree α)} {i : Nat}
    {trees : List (Tree α)} (hdrop : children.drop i = trees)
    (h : ∀ tree ∈ trees, (matchPaths answer tree).map (answerAt answer tree) =
      (outermost answer tree).map fun found => some found.2) :
    (matchPathsFrom answer i trees).map (answerAt answer (.node label children)) =
      (trees.flatMap (outermost answer)).map fun found => some found.2 := by
  induction trees generalizing i with
  | nil => rfl
  | cons tree trees ih =>
    obtain ⟨htree, htrees⟩ := List.forall_mem_cons.1 h
    have hchild : children[i]? = some tree := by
      rw [← List.head?_drop, hdrop, List.head?_cons]
    have hnext : children.drop (i + 1) = trees := by
      rw [← List.tail_drop, hdrop, List.tail_cons]
    have hbelow : ∀ path, answerAt answer (.node label children) (i :: path) =
        answerAt answer tree path := by
      intro path
      rw [answerAt_cons, Tree.children_node, hchild, Option.bind_some]
    rw [matchPathsFrom, List.map_append, List.map_map, ih hnext htrees, List.flatMap_cons,
      List.map_append, ← htree]
    congr 1
    exact List.map_congr_left fun path _ => hbelow path

theorem map_answerAt_matchPaths (tree : Tree α) :
    (matchPaths answer tree).map (answerAt answer tree) =
      (outermost answer tree).map fun found => some found.2 := by
  induction tree using Tree.induct with
  | node label children ih =>
    rw [matchPaths_node, outermost_node]
    cases hanswer : answer (.node label children) with
    | some edit =>
      dsimp only
      rw [List.map_singleton, answerAt_nil, hanswer, List.map_singleton]
    | none => exact map_answerAt_matchPathsFrom List.drop_zero ih

/-- Going up from a node with an answer, the last node with an answer is an outermost one. -/
theorem exists_isOutermost_above {tree : Tree α} {path : List Nat}
    (h : (answerAt answer tree path).isSome) :
    ∃ p, p <+: path ∧ IsOutermost answer tree p := by
  induction path generalizing tree with
  | nil => exact ⟨[], List.nil_prefix, isOutermost_nil.2 h⟩
  | cons i path ih =>
    cases hanswer : answer tree with
    | some edit =>
      refine ⟨[], List.nil_prefix, isOutermost_nil.2 ?_⟩
      rw [hanswer, Option.isSome_some]
    | none =>
      rw [answerAt_cons] at h
      obtain ⟨child, hchild⟩ := Option.isSome_iff_exists.1 (Option.isSome_of_isSome_bind h)
      rw [hchild, Option.bind_some] at h
      obtain ⟨p, hp, hout⟩ := ih h
      exact ⟨i :: p, List.cons_prefix_cons.2 ⟨rfl, hp⟩,
        isOutermost_cons.2 ⟨hanswer, child, hchild, hout⟩⟩

theorem IsOutermost.antichain {tree : Tree α} {p path : List Nat}
    (hp : IsOutermost answer tree p) (hpath : IsOutermost answer tree path) (h : p <+: path) :
    p = path := by
  by_cases hsame : p = path
  · exact hsame
  · have hanswers := hp.answers
    rw [hpath.above p h hsame] at hanswers
    cases hanswers

end

/-- For a query that needs no state and cannot fail, a walk brings back the answers at the paths of
the outermost nodes with an answer, in the lexicographic order of the paths and each once. So none
of these nodes is an ancestor of another, and every node with an answer is one of them or below
one. -/
theorem walk_finds_outermost (answer : Tree α → Option Edit) (tree : Tree α) (state : σ) :
    ∃ (paths : List (List Nat)) (found : List Edit),
      (walk (.ofAnswer answer : Visitor α σ ε) tree state).result = .ok found ∧
      found.map some = paths.map (answerAt answer tree) ∧
      (∀ path, path ∈ paths ↔ IsOutermost answer tree path) ∧
      paths.Pairwise (· < ·) ∧
      (∀ p ∈ paths, ∀ q ∈ paths, p <+: q → p = q) ∧
      ∀ path, (answerAt answer tree path).isSome → ∃ p ∈ paths, p <+: path := by
  have hanswers : ((outermost answer tree).map Prod.snd).map some =
      (matchPaths answer tree).map (answerAt answer tree) := by
    rw [map_answerAt_matchPaths, List.map_map]
    rfl
  refine ⟨matchPaths answer tree, _, result_walk_ofAnswer answer tree state, hanswers,
    fun _ => mem_matchPaths, pairwise_matchPaths tree, ?_, ?_⟩
  · intro p hp q hq hprefix
    exact (mem_matchPaths.1 hp).antichain (mem_matchPaths.1 hq) hprefix
  · intro path hpath
    obtain ⟨p, hp, hout⟩ := exists_isOutermost_above hpath
    exact ⟨p, mem_matchPaths.2 hout, hp⟩

-- The first child has an answer, so the node below it is not asked about.
example (e : Edit) : matchPaths Tree.label (.node none
    [.node (some e) [.node (some e) []], .node none [.node none [], .node (some e) []]]) =
      [[0], [1, 1]] := rfl

end Retouch
