import Retouch.Walk

/-!
# The walk is a recursion in pre-order

`visit` asks about a node and, if the node does not change, goes on to its children from left to
right. It is written in the monad of the queries, so a failure ends it and keeps the state. The
walk over a stack of siblings still to be asked about has the same result, leaves the same state
and makes the same calls.
-/

namespace Retouch

variable {α σ ε : Type}

mutual

def visit (v : Visitor α σ ε) : Tree α → EStateM ε σ (List Edit)
  | .node label children => do
    match ← v.ask (.node label children) with
    | some edit => return [edit]
    | none =>
      modify (v.opening (.node label children))
      visitAll v children

def visitAll (v : Visitor α σ ε) : List (Tree α) → EStateM ε σ (List Edit)
  | [] => return []
  | tree :: trees => do
    let found ← visit v tree
    let others ← visitAll v trees
    return found ++ others

end

/-- A result with more edits in front of those it has. -/
def withFound (found : List Edit) : EStateM.Result ε σ (List Edit) → EStateM.Result ε σ (List Edit)
  | .ok more state => .ok (found ++ more) state
  | .error error state => .error error state

@[simp] theorem withFound_nil (result : EStateM.Result ε σ (List Edit)) :
    withFound [] result = result := by
  cases result <;> rfl

theorem withFound_withFound (found others : List Edit) (result : EStateM.Result ε σ (List Edit)) :
    withFound found (withFound others result) = withFound (found ++ others) result := by
  cases result with
  | ok more state => simp only [withFound, List.append_assoc]
  | error error state => rfl

theorem visit_node (v : Visitor α σ ε) (label : α) (children : List (Tree α)) (state : σ) :
    visit v (.node label children) state =
      match v.ask (.node label children) state with
      | .error error state => .error error state
      | .ok (some edit) state => .ok [edit] state
      | .ok none state => visitAll v children (v.opening (.node label children) state) := by
  rw [visit]
  simp only [bind, EStateM.bind]
  cases v.ask (.node label children) state with
  | error error state => rfl
  | ok answer state => cases answer <;> rfl

theorem visitAll_nil (v : Visitor α σ ε) (state : σ) : visitAll v [] state = .ok [] state := by
  rw [visitAll]
  rfl

theorem visitAll_cons (v : Visitor α σ ε) (tree : Tree α) (trees : List (Tree α)) (state : σ) :
    visitAll v (tree :: trees) state =
      match visit v tree state with
      | .error error state => .error error state
      | .ok found state => withFound found (visitAll v trees state) := by
  rw [visitAll]
  simp only [bind, EStateM.bind]
  cases visit v tree state with
  | error error state => rfl
  | ok found state =>
    dsimp only
    cases visitAll v trees state <;> rfl

theorem visitAll_append (v : Visitor α σ ε) (trees others : List (Tree α)) (state : σ) :
    visitAll v (trees ++ others) state =
      match visitAll v trees state with
      | .error error state => .error error state
      | .ok found state => withFound found (visitAll v others state) := by
  induction trees generalizing state with
  | nil => simp only [List.nil_append, visitAll_nil, withFound_nil]
  | cons tree trees ih =>
    rw [List.cons_append, visitAll_cons, visitAll_cons]
    cases visit v tree state with
    | error error state => rfl
    | ok found state =>
      dsimp only
      rw [ih]
      cases visitAll v trees state with
      | error error state => rfl
      | ok more state => exact withFound_withFound found more _

/-- The result and the state of a walk, as the monad of the queries gives them. -/
def Walked.toResult (w : Walked σ ε) : EStateM.Result ε σ (List Edit) :=
  match w.failure with
  | none => .ok w.edits w.state
  | some error => .error error w.state

theorem Walked.toResult_precededBy (w : Walked σ ε) (answer : Option Edit) :
    (w.precededBy answer).toResult = withFound answer.toList w.toResult := by
  unfold Walked.toResult Walked.precededBy
  cases w.failure <;> rfl

/-- The walk puts no frame on its stack for a node without children. -/
theorem flatten_below (children siblings : List (Tree α)) (frames : List (List (Tree α))) :
    (if children.isEmpty then siblings :: frames else children :: siblings :: frames).flatten =
      children ++ (siblings :: frames).flatten := by
  cases children <;> rfl

/-- What is left of the recursion when the walk has the stack `frames` is the visit of all trees
on the stack, the innermost siblings first. -/
theorem toResult_walkFrom (v : Visitor α σ ε) (frames : List (List (Tree α))) (state : σ) :
    (walkFrom v frames state).toResult = visitAll v frames.flatten state := by
  fun_induction walkFrom v frames state with
  | case1 state => exact (visitAll_nil v state).symm
  | case2 frames state ih => exact ih
  | case3 label children siblings frames state error after hask =>
    rw [List.flatten_cons, List.cons_append, visitAll_cons, visit_node, hask]
    rfl
  | case4 label children siblings frames state edit after hask ih =>
    rw [List.flatten_cons, List.cons_append, visitAll_cons, visit_node, hask,
      Walked.toResult_precededBy, ih]
    rfl
  | case5 label children siblings frames state after hask opened below ih =>
    have hbelow : below.flatten = _ := flatten_below children siblings frames
    rw [List.flatten_cons, List.cons_append, visitAll_cons, visit_node, hask,
      Walked.toResult_precededBy, Option.toList_none, withFound_nil, ih, hbelow, visitAll_append]
    rfl

theorem toResult_walk (v : Visitor α σ ε) (tree : Tree α) (state : σ) :
    (walk v tree state).toResult = visit v tree state := by
  rw [walk, toResult_walkFrom, List.flatten_singleton, visitAll_cons]
  cases visit v tree state with
  | error error state => rfl
  | ok found state =>
    dsimp only
    rw [visitAll_nil, withFound, List.append_nil]

/-- What a walk calls upon: the query, and the children of a node. -/
inductive Call (α : Type) where
  | asking (tree : Tree α)
  | opening (tree : Tree α)

/-- The nodes that the query was asked about. -/
def asked (calls : List (Call α)) : List (Tree α) :=
  calls.filterMap fun
    | .asking tree => some tree
    | .opening _ => none

/-- The visitor that also writes down each call, after those written down before. -/
def Visitor.recording (v : Visitor α σ ε) : Visitor α (σ × List (Call α)) ε where
  ask := fun tree (state, calls) =>
    match v.ask tree state with
    | .ok answer state => .ok answer (state, calls ++ [.asking tree])
    | .error error state => .error error (state, calls ++ [.asking tree])
  opening := fun tree (state, calls) => (v.opening tree state, calls ++ [.opening tree])

theorem Visitor.recording_ask (v : Visitor α σ ε) (tree : Tree α) (state : σ)
    (calls : List (Call α)) :
    v.recording.ask tree (state, calls) =
      match v.ask tree state with
      | .ok answer state => .ok answer (state, calls ++ [.asking tree])
      | .error error state => .error error (state, calls ++ [.asking tree]) := rfl

def Walked.withState {τ : Type} (w : Walked σ ε) (state : τ) : Walked τ ε :=
  ⟨w.edits, w.visited, state, w.failure⟩

theorem Tree.subtreesOf_append (trees others : List (Tree α)) :
    Tree.subtreesOf (trees ++ others) = Tree.subtreesOf trees ++ Tree.subtreesOf others := by
  induction trees with
  | nil => rw [List.nil_append, Tree.subtreesOf, List.nil_append]
  | cons tree trees ih =>
    rw [List.cons_append, Tree.subtreesOf, Tree.subtreesOf, ih, List.append_assoc]

theorem Tree.subtreesOf_node (label : α) (children trees : List (Tree α)) :
    Tree.subtreesOf (.node label children :: trees) =
      .node label children :: Tree.subtreesOf (children ++ trees) := by
  rw [Tree.subtreesOf, Tree.subtrees, Tree.subtreesOf_append, List.cons_append]

/-- Writing down the calls changes nothing else. The nodes counted are those asked about, and
these are met in pre-order, none of them twice. -/
theorem walkFrom_recording (v : Visitor α σ ε) (frames : List (List (Tree α))) (state : σ)
    (calls : List (Call α)) :
    ∃ made : List (Call α),
      walkFrom v.recording frames (state, calls) =
        (walkFrom v frames state).withState ((walkFrom v frames state).state, calls ++ made) ∧
      (walkFrom v frames state).visited = (asked made).length ∧
      (asked made).Sublist (Tree.subtreesOf frames.flatten) := by
  fun_induction walkFrom v frames state generalizing calls with
  | case1 state =>
    exact ⟨[], by rw [walkFrom, List.append_nil]; rfl, rfl, List.nil_sublist _⟩
  | case2 frames state ih =>
    obtain ⟨made, hwalk, hcount, hasked⟩ := ih calls
    exact ⟨made, by rw [walkFrom, hwalk], hcount, hasked⟩
  | case3 label children siblings frames state error after hask =>
    refine ⟨[.asking (.node label children)], ?_, rfl, ?_⟩
    · rw [walkFrom, Visitor.recording_ask, hask]
      rfl
    · rw [List.flatten_cons, List.cons_append, Tree.subtreesOf_node]
      exact (List.nil_sublist _).cons_cons _
  | case4 label children siblings frames state edit after hask ih =>
    obtain ⟨made, hwalk, hcount, hasked⟩ := ih (calls ++ [.asking (.node label children)])
    refine ⟨.asking (.node label children) :: made, ?_, ?_, ?_⟩
    · rw [walkFrom, Visitor.recording_ask, hask]
      dsimp only
      rw [hwalk, List.append_assoc]
      rfl
    · rw [Walked.precededBy, hcount]
      rfl
    · rw [List.flatten_cons, List.cons_append, Tree.subtreesOf_node, Tree.subtreesOf_append]
      exact (hasked.trans (List.sublist_append_right _ _)).cons_cons _
  | case5 label children siblings frames state after hask opened below ih =>
    obtain ⟨made, hwalk, hcount, hasked⟩ :=
      ih (calls ++ [.asking (.node label children)] ++ [.opening (.node label children)])
    refine ⟨.asking (.node label children) :: .opening (.node label children) :: made, ?_, ?_, ?_⟩
    · rw [walkFrom, Visitor.recording_ask, hask]
      change (walkFrom v.recording below (opened, _)).precededBy none = _
      rw [hwalk, List.append_assoc, List.append_assoc]
      rfl
    · rw [Walked.precededBy, hcount]
      rfl
    · have hbelow : below.flatten = _ := flatten_below children siblings frames
      rw [hbelow] at hasked
      rw [List.flatten_cons, List.cons_append, Tree.subtreesOf_node]
      exact hasked.cons_cons _

theorem Walked.result_eq_ok_iff {w : Walked σ ε} {found : List Edit} :
    w.result = .ok found ↔ w.failure = none ∧ w.edits = found := by
  unfold Walked.result
  cases w.failure <;> simp

/-- The walk over a stack refines the recursion: it ends with the same result and the same state
and makes the same calls in the same order. It asks about nodes in pre-order and about none twice,
and its last report counts the calls of the query and the edits. -/
theorem walk_refines_visit (v : Visitor α σ ε) (tree : Tree α) (state : σ) :
    ∃ calls : List (Call α),
      (walk v tree state).toResult = visit v tree state ∧
      walk v.recording tree (state, []) =
        (walk v tree state).withState ((walk v tree state).state, calls) ∧
      visit v.recording tree (state, []) =
        ((walk v tree state).withState ((walk v tree state).state, calls)).toResult ∧
      (asked calls).Sublist tree.subtrees ∧
      (walk v tree state).visited = (asked calls).length ∧
      ∀ found, (walk v tree state).result = .ok found →
        (walk v tree state).events =
          found.map Event.ofMatch ++ [.walkFinished (asked calls).length found.length] := by
  obtain ⟨calls, hrecording, hcount, hasked⟩ := walkFrom_recording v [[tree]] state []
  have hwalk : walk v.recording tree (state, []) =
      (walk v tree state).withState ((walk v tree state).state, calls) := hrecording
  refine ⟨calls, toResult_walk v tree state, hwalk, ?_, ?_, hcount, ?_⟩
  · rw [← hwalk, toResult_walk]
  · rwa [List.flatten_singleton, Tree.subtreesOf, Tree.subtreesOf, List.append_nil] at hasked
  · intro found hfound
    obtain ⟨hfailure, hedits⟩ := Walked.result_eq_ok_iff.1 hfound
    rw [Walked.events, hfailure, hedits, ← hcount]
    rfl

end Retouch
