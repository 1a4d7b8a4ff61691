import Retouch.Text.Lines

/-!
# Line diffs

A diff lists the lines of two texts in one sequence: lines of both, lines of the first only and
lines of the second only. It keeps a longest common subsequence of the lines, and between two
lines that are kept the deleted ones come before the inserted ones.
-/

namespace Retouch

inductive Change (α : Type) where
  | keep (a : α)
  | delete (a : α)
  | insert (a : α)
deriving DecidableEq

namespace LineDiff

variable {α : Type} [DecidableEq α]

/-- Lengths of the longest common subsequences of `a :: as` with `bs` and all its tails, from
those of `as`. -/
def commonRow (a : α) : List α → List Nat → List Nat
  | [], _ => [0]
  | b :: bs, below =>
    let right := commonRow a bs below.tail
    let best :=
      if a = b then below.tail.headD 0 + 1 else max (below.headD 0) (right.headD 0)
    best :: right

def commonRows (bs : List α) : List α → List (List Nat)
  | [] => [List.replicate (bs.length + 1) 0]
  | a :: as =>
    let rows := commonRows bs as
    commonRow a bs (rows.headD []) :: rows

/-- Follows the rows for `as`, whose columns start at `bs`. -/
def script (rows : List (List Nat)) (as bs : List α) : List (Change α) :=
  match as, bs with
  | [], bs => bs.map .insert
  | as, [] => as.map .delete
  | a :: as, b :: bs =>
    if a = b then .keep a :: script (rows.tail.map List.tail) as bs
    else if (rows.headD []).tail.headD 0 ≤ (rows.tail.headD []).headD 0 then
      .delete a :: script rows.tail as (b :: bs)
    else .insert b :: script (rows.map List.tail) (a :: as) bs
termination_by as.length + bs.length

end LineDiff

def lineDiff (old new : Text) : List (Change Text) :=
  let as := linesWithEnds old
  let bs := linesWithEnds new
  LineDiff.script (LineDiff.commonRows bs as) as bs

end Retouch
