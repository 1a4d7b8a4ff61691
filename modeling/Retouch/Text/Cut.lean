import Retouch.Position

/-!
# Cutting a text at a position

`cut` takes characters from the front of a text until a bound is reached. The text decides where
the cut falls: a bound past the end of a line is reached by the newline, and a bound past the end
of the text takes all of it.
-/

namespace Retouch

/-- Texts are lists of characters, the unit that columns count. -/
abbrev Text := List Char

structure Cut where
  taken : Text
  rest : Text
  /-- The position of the first character of `rest`. -/
  reached : Position
deriving DecidableEq

/-- Takes characters of a text that starts at `here` while their position is before `bound`. -/
def cut (here bound : Position) : Text → Cut
  | [] => ⟨[], [], here⟩
  | c :: text =>
    if here < bound then
      let next := cut (here.advance c) bound text
      ⟨c :: next.taken, next.rest, next.reached⟩
    else ⟨[], c :: text, here⟩

/-- Cuts at each bound in turn, each cut going on where the one before ended. -/
def cuts (here : Position) (text : Text) : List Position → List Cut
  | [] => []
  | bound :: bounds =>
    let first := cut here bound text
    first :: cuts first.reached first.rest bounds

theorem taken_append_rest (here bound : Position) (text : Text) :
    (cut here bound text).taken ++ (cut here bound text).rest = text := by
  induction text generalizing here with
  | nil => rfl
  | cons c text ih =>
    unfold cut
    split
    · simpa using ih _
    · rfl

theorem reached_eq_after_taken (here bound : Position) (text : Text) :
    (cut here bound text).reached = here.after (cut here bound text).taken := by
  induction text generalizing here with
  | nil => rfl
  | cons c text ih =>
    unfold cut
    split
    · simpa using ih _
    · rfl

end Retouch
