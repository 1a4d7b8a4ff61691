import Mathlib.Order.Monotone.Basic
import Retouch.Proofs.Order

/-!
# Positions of character offsets

`positionAt text k` is the position between the first `k` characters of a text and the others.
Positions grow strictly with the text before them, so an offset within the text is determined by
its position, and a cut whose bound is the position of an offset falls at that offset.
-/

namespace Retouch

namespace Position

theorem le_after (p : Position) (text : Text) : p ≤ p.after text := by
  induction text generalizing p with
  | nil => exact le_refl p
  | cons c text ih => exact (p.lt_advance c).le.trans (ih (p.advance c))

theorem lt_after_cons (p : Position) (c : Char) (text : Text) : p < p.after (c :: text) :=
  (p.lt_advance c).trans_le ((p.advance c).le_after text)

end Position

def positionAt (text : Text) (offset : Nat) : Position := Position.start.after (text.take offset)

theorem positionAt_append (s t : Text) : positionAt (s ++ t) s.length = Position.start.after s := by
  rw [positionAt, List.take_left]

theorem positionAt_length (text : Text) :
    positionAt text text.length = Position.start.after text := by
  rw [positionAt, List.take_length]

theorem positionAt_add (text : Text) (start length : Nat) :
    positionAt text (start + length) =
      (positionAt text start).after ((text.drop start).take length) := by
  rw [positionAt, List.take_add, Position.after_append]
  rfl

theorem exists_take_drop_eq_cons {text : Text} {j n : Nat} (hn : 0 < n)
    (hk : j + n ≤ text.length) : ∃ c rest, (text.drop j).take n = c :: rest := by
  apply List.exists_cons_of_length_pos
  rw [List.length_take, List.length_drop]
  omega

theorem positionAt_lt {text : Text} {j k : Nat} (hjk : j < k) (hk : k ≤ text.length) :
    positionAt text j < positionAt text k := by
  obtain ⟨n, rfl⟩ := Nat.exists_eq_add_of_lt hjk
  obtain ⟨c, rest, hrest⟩ := exists_take_drop_eq_cons n.succ_pos hk
  rw [Nat.add_assoc, positionAt_add, hrest]
  exact Position.lt_after_cons _ c rest

theorem positionAt_le_iff {text : Text} {j k : Nat} (hj : j ≤ text.length)
    (hk : k ≤ text.length) : positionAt text j ≤ positionAt text k ↔ j ≤ k := by
  constructor
  · intro h
    by_contra hkj
    exact absurd h (not_le.2 (positionAt_lt (by omega) hj))
  · intro h
    rcases h.lt_or_eq with h | h
    · exact (positionAt_lt h hk).le
    · rw [h]

theorem positionAt_inj {text : Text} {j k : Nat} (hj : j ≤ text.length) (hk : k ≤ text.length)
    (h : positionAt text j = positionAt text k) : j = k :=
  le_antisymm ((positionAt_le_iff hj hk).1 h.le) ((positionAt_le_iff hk hj).1 h.ge)

/-- The positions that a text has, one for each offset from zero to its length. -/
def HasPosition (text : Text) (p : Position) : Prop :=
  ∃ offset ≤ text.length, positionAt text offset = p

theorem HasPosition.existsUnique {text : Text} {p : Position} (h : HasPosition text p) :
    ∃! offset, offset ≤ text.length ∧ positionAt text offset = p := by
  obtain ⟨k, hk, rfl⟩ := h
  exact ⟨k, ⟨hk, rfl⟩, fun j ⟨hj, hjk⟩ => positionAt_inj hj hk hjk⟩

theorem hasPosition_after_append (s t : Text) : HasPosition (s ++ t) (Position.start.after s) := by
  refine ⟨s.length, ?_, positionAt_append s t⟩
  rw [List.length_append]
  omega

/-- A cut takes every part of the text that ends at its bound or before. -/
theorem cut_append {here bound : Position} {s : Text} (t : Text) (h : here.after s ≤ bound) :
    cut here bound (s ++ t) =
      ⟨s ++ (cut (here.after s) bound t).taken, (cut (here.after s) bound t).rest,
        (cut (here.after s) bound t).reached⟩ := by
  induction s generalizing here with
  | nil => rfl
  | cons c s ih =>
    have hlt : here < bound := (here.lt_after_cons c s).trans_le h
    rw [List.cons_append, cut, if_pos hlt, ih h]
    rfl

/-- A bound at the end of the text or after it cuts off all of the text. -/
theorem cut_whole {here bound : Position} {text : Text} (h : here.after text ≤ bound) :
    (cut here bound text).taken = text ∧ (cut here bound text).rest = [] := by
  have hcut := cut_append [] h
  rw [List.append_nil] at hcut
  rw [hcut]
  exact ⟨List.append_nil text, rfl⟩

theorem cut_self (here : Position) (text : Text) : cut here here text = ⟨[], text, here⟩ := by
  cases text with
  | nil => rfl
  | cons c text => rw [cut, if_neg (lt_irrefl here)]

/-- A bound that is the position after some part of the text cuts that part off. -/
theorem cut_after (here : Position) (s t : Text) :
    cut here (here.after s) (s ++ t) = ⟨s, t, here.after s⟩ := by
  rw [cut_append t (le_refl _), cut_self, List.append_nil]

end Retouch
