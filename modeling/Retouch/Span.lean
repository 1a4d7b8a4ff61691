import Retouch.Position

/-!
# Spans

A span is the half-open range of positions from its lower to its upper bound. An empty span marks
a place between two characters. Spans that come from numbers are checked by `Span.between?`;
those that come from a parse tree are not, so nothing here assumes that the bounds are in order.
-/

namespace Retouch

structure Span where
  lower : Position
  upper : Position
deriving DecidableEq

namespace Span

def between? (lower upper : Position) : Except PositionError Span :=
  if upper < lower then .error (.inverted lower upper) else .ok ⟨lower, upper⟩

def point (p : Position) : Span := ⟨p, p⟩

def isEmpty (s : Span) : Bool := s.lower = s.upper

def contains (s : Span) (p : Position) : Bool := s.lower ≤ p ∧ p < s.upper

/-- Two spans overlap if they share a character or one is empty and strictly inside the other.
Spans that only touch do not. -/
def overlaps (a b : Span) : Bool := a.lower < b.upper ∧ b.lower < a.upper

/-- Spans are ordered by lower bound, then by upper bound. -/
protected def Lt (a b : Span) : Prop :=
  a.lower < b.lower ∨ a.lower = b.lower ∧ a.upper < b.upper

instance : LT Span := ⟨Span.Lt⟩

instance : LE Span := ⟨fun a b => ¬ b < a⟩

theorem lt_def {a b : Span} :
    a < b ↔ a.lower < b.lower ∨ a.lower = b.lower ∧ a.upper < b.upper := Iff.rfl

theorem le_def {a b : Span} : a ≤ b ↔ ¬ b < a := Iff.rfl

instance (a b : Span) : Decidable (a < b) :=
  inferInstanceAs (Decidable (_ ∨ _ ∧ _))

instance (a b : Span) : Decidable (a ≤ b) :=
  inferInstanceAs (Decidable (¬ b < a))

instance : Ord Span := ⟨fun a b => compareOfLessAndEq a b⟩

def render (s : Span) : String := s!"{s.lower.render}..{s.upper.render}"

end Span

end Retouch
