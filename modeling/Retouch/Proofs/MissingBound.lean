import Mathlib.Order.Bounds.Basic
import Retouch.Proofs.Outcome

/-!
# The bound that is refused

A check of bounds alone refuses edits exactly if one of their bounds is no position of the text. It
then names the first such bound, in the order of the edits and lower before upper, and the nearest
end: the last position of the bound's line, or of the whole text if it has no such line.
-/

namespace Retouch

/-- Nothing but the bounds is looked at. -/
def Settings.boundsOnly : Settings := ⟨false, true⟩

theorem firstFault_boundsOnly (text : Text) (edits : List Edit) :
    firstFault .boundsOnly text edits = firstOutOfBounds text edits := rfl

/-- The last position of the text on a line, or the last of all if no position is on that line. -/
def IsLineEnd (text : Text) (line : Ordinal) (p : Position) : Prop :=
  IsGreatest {q | HasPosition text q ∧ q.line = line} p ∨
    (∀ q, HasPosition text q → q.line ≠ line) ∧ p = Position.start.after text

theorem IsLineEnd.hasPosition {text : Text} {line : Ordinal} {p : Position}
    (h : IsLineEnd text line p) : HasPosition text p := by
  rcases h with hlast | ⟨-, rfl⟩
  · exact hlast.1.1
  · exact hasPosition_end text

theorem IsLineEnd.unique {text : Text} {line : Ordinal} {p q : Position}
    (hp : IsLineEnd text line p) (hq : IsLineEnd text line q) : p = q := by
  rcases hp with hp | ⟨hmissing, rfl⟩
  · rcases hq with hq | ⟨hmissing, -⟩
    · exact hp.unique hq
    · exact absurd hp.1.2 (hmissing p hp.1.1)
  · rcases hq with hq | ⟨-, rfl⟩
    · exact absurd hq.1.2 (hmissing q hq.1.1)
    · rfl

/-- The line that is looked up has the text's positions on it, up to its length. -/
theorem isLineEnd_nearestEnd (text : Text) (p : Position) :
    IsLineEnd text p.line (nearestEnd text p) := by
  unfold nearestEnd
  cases hrow : (lines text)[p.line.value - 1]? with
  | some line =>
    apply Or.inl
    constructor
    · have hend : OnRow text (p.line.value - 1) (line.length + 1 - 1) := ⟨line, hrow, by omega⟩
      exact ⟨hasPosition_iff.2 hend, rfl⟩
    · rintro q ⟨hq, hline⟩
      obtain ⟨found, hfound, hcolumn⟩ := hasPosition_iff.1 hq
      rw [hline, hrow] at hfound
      obtain rfl := Option.some.inj hfound
      have hpos := q.column.pos
      simp only [Position.le_def, Position.lt_def, hline, Ordinal.value_ofZeroBased]
      omega
  | none =>
    apply Or.inr
    refine ⟨fun q hq hline => ?_, rfl⟩
    obtain ⟨found, hfound, -⟩ := hasPosition_iff.1 hq
    rw [hline, hrow] at hfound
    cases hfound

/-- The first of the bounds, lower before upper for each edit in turn, that is no position of the
text. -/
structure FirstMissing (text : Text) (edits : List Edit) (bound : Position) : Prop where
  split : ∃ before after, bounds edits = before ++ bound :: after ∧ ∀ p ∈ before, HasPosition text p
  missing : ¬ HasPosition text bound

theorem firstOutOfBounds_eq_some_iff {text : Text} {edits : List Edit} {fault : Fault} :
    firstOutOfBounds text edits = some fault ↔
      ∃ bound, FirstMissing text edits bound ∧
        fault = .outOfBounds bound (nearestEnd text bound) := by
  simp only [firstOutOfBounds, List.findSome?_eq_some_iff, Option.ite_none_right_eq_some,
    ite_eq_right_iff, reduceCtorEq, imp_false, nearestEnd_lt_iff, not_not, Option.some.injEq]
  constructor
  · rintro ⟨before, bound, after, hsplit, ⟨hmissing, rfl⟩, hbefore⟩
    exact ⟨bound, ⟨⟨before, after, hsplit, hbefore⟩, hmissing⟩, rfl⟩
  · rintro ⟨bound, ⟨⟨before, after, hsplit, hbefore⟩, hmissing⟩, rfl⟩
    exact ⟨before, bound, after, hsplit, ⟨hmissing, rfl⟩, hbefore⟩

/-- The check of bounds passes exactly the edits whose bounds are positions of the text. It fails
exactly with the first bound that is none and with the end of that bound's line, or of the text if
there is no such line. This end is a position of the text and before the bound. -/
theorem check_bounds_exact (text : Text) (edits : List Edit) :
    (check .boundsOnly text edits = .ok () ↔
      ∀ e ∈ edits, HasPosition text e.span.lower ∧ HasPosition text e.span.upper) ∧
    ∀ fault, check .boundsOnly text edits = .error fault ↔
      ∃ bound nearest, fault = .outOfBounds bound nearest ∧ FirstMissing text edits bound ∧
        IsLineEnd text bound.line nearest ∧ HasPosition text nearest ∧ nearest < bound := by
  constructor
  · rw [check_eq_ok_iff, ← firstOutOfBounds_eq_none_iff]
    constructor
    · intro h
      exact h.2 rfl
    · intro h
      refine ⟨fun hoff => ?_, fun _ => h⟩
      cases hoff
  · intro fault
    rw [check_eq_error_iff, firstFault_boundsOnly, firstOutOfBounds_eq_some_iff]
    constructor
    · rintro ⟨bound, hfirst, rfl⟩
      have hend := isLineEnd_nearestEnd text bound
      exact ⟨bound, nearestEnd text bound, rfl, hfirst, hend, hend.hasPosition,
        (nearestEnd_lt_iff text bound).2 hfirst.missing⟩
    · rintro ⟨bound, nearest, rfl, hfirst, hend, -, -⟩
      refine ⟨bound, hfirst, ?_⟩
      rw [hend.unique (isLineEnd_nearestEnd text bound)]

-- The first bound that is missing is on a line of the text, the second is not.
example : check .boundsOnly ['a', '\n', 'b', 'c']
    [⟨.replace, [], .ofZeroBased 0 0, .ofZeroBased 0 5⟩, ⟨.before, [], .point (.ofZeroBased 7 0)⟩] =
      .error (.outOfBounds (.ofZeroBased 0 5) (.ofZeroBased 0 1)) := by decide

end Retouch
