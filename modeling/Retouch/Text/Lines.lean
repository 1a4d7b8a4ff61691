import Retouch.Text.Cut

/-!
# Lines of a text

`lines` cuts at newlines and drops them. `linesWithEnds` cuts after each line end and keeps it; a
line ends with a newline, a carriage return, or both in this order.
-/

namespace Retouch

/-- Puts a character in front of the first line. -/
def extendFirst (c : Char) : List Text → List Text
  | [] => [[c]]
  | line :: rest => (c :: line) :: rest

/-- There is always a last line, maybe empty. -/
def lines : Text → List Text
  | [] => [[]]
  | c :: text => if c = '\n' then [] :: lines text else extendFirst c (lines text)

def linesWithEnds : Text → List Text
  | [] => []
  | c :: text =>
    if c = '\n' ∨ c = '\r' ∧ text.head? ≠ some '\n' then [c] :: linesWithEnds text
    else extendFirst c (linesWithEnds text)

theorem flatten_extendFirst (c : Char) (ls : List Text) :
    (extendFirst c ls).flatten = c :: ls.flatten := by
  cases ls <;> rfl

theorem flatten_linesWithEnds (text : Text) : (linesWithEnds text).flatten = text := by
  induction text with
  | nil => rfl
  | cons c text ih =>
    unfold linesWithEnds
    split
    · simp [ih]
    · simp [flatten_extendFirst, ih]

end Retouch
