import Retouch.Check
import Retouch.Proofs.Offset

/-!
# The check of bounds is exact

The check looks a bound's line up among the lines of the text and compares columns. A bound passes
exactly if it is the position of some offset of the text.
-/

namespace Retouch

theorem lines_ne_nil (text : Text) : lines text ≠ [] := by
  cases text with
  | nil => simp [lines]
  | cons c text =>
    unfold lines
    split
    · simp
    · cases lines text <;> simp [extendFirst]

theorem lines_newline (text : Text) : lines ('\n' :: text) = [] :: lines text := by
  simp [lines]

theorem lines_cons {c : Char} (hc : c ≠ '\n') (text : Text) :
    ∃ line rest, lines text = line :: rest ∧ lines (c :: text) = (c :: line) :: rest := by
  obtain ⟨line, rest, hlines⟩ := List.exists_cons_of_ne_nil (lines_ne_nil text)
  exact ⟨line, rest, hlines, by simp [lines, hc, hlines, extendFirst]⟩

/-- The text has a row with at least `column` characters before its end. -/
def OnRow (text : Text) (row column : Nat) : Prop :=
  ∃ line, (lines text)[row]? = some line ∧ column ≤ line.length

theorem onRow_nil {row column : Nat} : OnRow [] row column ↔ row = 0 ∧ column = 0 := by
  cases row <;> simp [OnRow, lines]

theorem onRow_newline {text : Text} {row column : Nat} :
    OnRow ('\n' :: text) row column ↔
      row = 0 ∧ column = 0 ∨ ∃ above, row = above + 1 ∧ OnRow text above column := by
  cases row <;> simp [OnRow, lines_newline]

theorem onRow_cons {c : Char} (hc : c ≠ '\n') {text : Text} {row column : Nat} :
    OnRow (c :: text) row column ↔
      row = 0 ∧ column = 0 ∨ row = 0 ∧ (∃ before, column = before + 1 ∧ OnRow text 0 before) ∨
        row ≠ 0 ∧ OnRow text row column := by
  obtain ⟨line, rest, htext, hcons⟩ := lines_cons hc text
  cases row with
  | zero => cases column <;> simp [OnRow, htext, hcons]
  | succ row => simp [OnRow, htext, hcons]

/-- Positions met on the way from `here` through a text. -/
def Reaches (here : Position) (text : Text) (p : Position) : Prop :=
  ∃ s, s <+: text ∧ here.after s = p

theorem reaches_nil {here p : Position} : Reaches here [] p ↔ here = p := by
  simp [Reaches]

theorem reaches_cons {here p : Position} {c : Char} {text : Text} :
    Reaches here (c :: text) p ↔ here = p ∨ Reaches (here.advance c) text p := by
  constructor
  · rintro ⟨s, hs, rfl⟩
    rcases List.prefix_cons_iff.1 hs with rfl | ⟨t, rfl, ht⟩
    · exact Or.inl rfl
    · exact Or.inr ⟨t, ht, rfl⟩
  · rintro (rfl | ⟨s, hs, rfl⟩)
    · exact ⟨[], List.nil_prefix, rfl⟩
    · exact ⟨c :: s, List.cons_prefix_cons.2 ⟨rfl, hs⟩, rfl⟩

theorem reaches_start_iff {text : Text} {p : Position} :
    Reaches .start text p ↔ HasPosition text p := by
  constructor
  · rintro ⟨s, ⟨t, rfl⟩, rfl⟩
    exact ⟨s.length, by simp, positionAt_append s t⟩
  · rintro ⟨k, -, rfl⟩
    exact ⟨text.take k, List.take_prefix k text, rfl⟩

/-- The position `row` rows below `here`. Columns go on from `here` on its own row and start at one
on the rows below it. -/
def Position.Below (here : Position) (row column : Nat) (p : Position) : Prop :=
  p.line.value = here.line.value + row ∧
    p.column.value = (if row = 0 then here.column.value else 1) + column

theorem below_zero_zero {here p : Position} : here.Below 0 0 p ↔ here = p := by
  constructor
  · rintro ⟨hline, hcolumn⟩
    exact Position.ext_values hline.symm hcolumn.symm
  · rintro rfl
    exact ⟨rfl, rfl⟩

theorem nextLine_below {here p : Position} {row column : Nat} :
    here.nextLine.Below row column p ↔ here.Below (row + 1) column p := by
  simp only [Position.Below, Position.nextLine, Ordinal.value_next, Ordinal.value_first, ite_self,
    if_neg (Nat.succ_ne_zero row)]
  omega

theorem nextColumn_below_zero {here p : Position} {column : Nat} :
    here.nextColumn.Below 0 column p ↔ here.Below 0 (column + 1) p := by
  simp only [Position.Below, Position.nextColumn, Ordinal.value_next, if_true]
  omega

theorem nextColumn_below {here p : Position} {row column : Nat} (hrow : row ≠ 0) :
    here.nextColumn.Below row column p ↔ here.Below row column p := by
  simp only [Position.Below, Position.nextColumn, if_neg hrow]

/-- The position is on a row of the text that starts at `here`, and not after the end of the row. -/
def OnRowFrom (here : Position) (text : Text) (p : Position) : Prop :=
  ∃ row column, OnRow text row column ∧ here.Below row column p

theorem onRowFrom_nil {here p : Position} : OnRowFrom here [] p ↔ here = p := by
  simp only [OnRowFrom, onRow_nil]
  constructor
  · rintro ⟨_, _, ⟨rfl, rfl⟩, hbelow⟩
    exact below_zero_zero.1 hbelow
  · intro h
    exact ⟨0, 0, ⟨rfl, rfl⟩, below_zero_zero.2 h⟩

theorem onRowFrom_newline {here p : Position} {text : Text} :
    OnRowFrom here ('\n' :: text) p ↔ here = p ∨ OnRowFrom here.nextLine text p := by
  simp only [OnRowFrom, onRow_newline, nextLine_below]
  constructor
  · rintro ⟨_, column, ⟨rfl, rfl⟩ | ⟨row, rfl, hrow⟩, hbelow⟩
    · exact Or.inl (below_zero_zero.1 hbelow)
    · exact Or.inr ⟨row, column, hrow, hbelow⟩
  · rintro (h | ⟨row, column, hrow, hbelow⟩)
    · exact ⟨0, 0, Or.inl ⟨rfl, rfl⟩, below_zero_zero.2 h⟩
    · exact ⟨row + 1, column, Or.inr ⟨row, rfl, hrow⟩, hbelow⟩

theorem onRowFrom_cons {c : Char} (hc : c ≠ '\n') {here p : Position} {text : Text} :
    OnRowFrom here (c :: text) p ↔ here = p ∨ OnRowFrom here.nextColumn text p := by
  simp only [OnRowFrom, onRow_cons hc]
  constructor
  · rintro ⟨row, column, ⟨rfl, rfl⟩ | ⟨rfl, before, rfl, hrow⟩ | ⟨hzero, hrow⟩, hbelow⟩
    · exact Or.inl (below_zero_zero.1 hbelow)
    · exact Or.inr ⟨0, before, hrow, nextColumn_below_zero.2 hbelow⟩
    · exact Or.inr ⟨row, column, hrow, (nextColumn_below hzero).2 hbelow⟩
  · rintro (h | ⟨row, column, hrow, hbelow⟩)
    · exact ⟨0, 0, Or.inl ⟨rfl, rfl⟩, below_zero_zero.2 h⟩
    · by_cases hzero : row = 0
      · subst hzero
        exact ⟨0, column + 1, Or.inr (Or.inl ⟨rfl, column, rfl, hrow⟩),
          nextColumn_below_zero.1 hbelow⟩
      · exact ⟨row, column, Or.inr (Or.inr ⟨hzero, hrow⟩), (nextColumn_below hzero).1 hbelow⟩

theorem reaches_iff (here p : Position) (text : Text) :
    Reaches here text p ↔ OnRowFrom here text p := by
  induction text generalizing here with
  | nil => rw [reaches_nil, onRowFrom_nil]
  | cons c text ih =>
    rw [reaches_cons, ih, Position.advance]
    by_cases hc : c = '\n'
    · subst hc
      rw [if_pos rfl, onRowFrom_newline]
    · rw [if_neg hc, onRowFrom_cons hc]

theorem hasPosition_iff {text : Text} {p : Position} :
    HasPosition text p ↔ OnRow text (p.line.value - 1) (p.column.value - 1) := by
  have hline := p.line.pos
  have hcolumn := p.column.pos
  rw [← reaches_start_iff, reaches_iff]
  simp only [OnRowFrom, Position.Below, Position.start, Ordinal.value_first, ite_self]
  constructor
  · rintro ⟨row, column, hrow, hl, hc⟩
    rwa [hl, hc, Nat.add_sub_cancel_left, Nat.add_sub_cancel_left]
  · intro hrow
    exact ⟨_, _, hrow, by omega, by omega⟩

theorem hasPosition_end (text : Text) : HasPosition text (Position.start.after text) :=
  ⟨text.length, le_refl _, positionAt_length text⟩

/-- A bound is refused exactly if no offset of the text has it as its position. -/
theorem nearestEnd_lt_iff (text : Text) (p : Position) :
    nearestEnd text p < p ↔ ¬ HasPosition text p := by
  have hcolumn := p.column.pos
  rw [hasPosition_iff, nearestEnd]
  cases hrow : (lines text)[p.line.value - 1]? with
  | some line =>
    simp only [OnRow, hrow, Option.some.injEq, exists_eq_left', Position.lt_def,
      Ordinal.value_ofZeroBased, true_and]
    omega
  | none =>
    obtain ⟨line, hend, -⟩ := hasPosition_iff.1 (hasPosition_end text)
    have hfound := (List.getElem?_eq_some_iff.1 hend).1
    have hmissing := List.getElem?_eq_none_iff.1 hrow
    simp only [OnRow, hrow, reduceCtorEq, false_and, exists_false, not_false_eq_true, iff_true]
    exact Or.inl (by omega)

instance (text : Text) (p : Position) : Decidable (HasPosition text p) :=
  decidable_of_iff (¬ nearestEnd text p < p) (by rw [nearestEnd_lt_iff, not_not])

theorem mem_bounds {edits : List Edit} {p : Position} :
    p ∈ bounds edits ↔ ∃ e ∈ edits, p = e.span.lower ∨ p = e.span.upper := by
  simp [bounds]

theorem firstOutOfBounds_eq_none_iff (text : Text) (edits : List Edit) :
    firstOutOfBounds text edits = none ↔
      ∀ e ∈ edits, HasPosition text e.span.lower ∧ HasPosition text e.span.upper := by
  simp only [firstOutOfBounds, List.findSome?_eq_none_iff, ite_eq_right_iff, reduceCtorEq,
    imp_false, nearestEnd_lt_iff, not_not, mem_bounds]
  constructor
  · intro h e he
    exact ⟨h _ ⟨e, he, Or.inl rfl⟩, h _ ⟨e, he, Or.inr rfl⟩⟩
  · rintro h p ⟨e, he, rfl | rfl⟩
    · exact (h e he).1
    · exact (h e he).2

end Retouch
