import Mathlib.Order.Lattice
import Retouch.Edit

/-!
# The orders of positions and spans

Positions are ordered by line and column, spans by lower and upper bound. Both orders are linear,
and the relations of `Retouch.Position` and `Retouch.Span` are their `<` and `≤`.
-/

namespace Retouch

namespace Position

@[ext] theorem ext_values {p q : Position} (hline : p.line.value = q.line.value)
    (hcolumn : p.column.value = q.column.value) : p = q := by
  cases p
  cases q
  simp only [mk.injEq]
  exact ⟨Ordinal.ext hline, Ordinal.ext hcolumn⟩

instance : LinearOrder Position where
  le_refl p := by
    simp only [le_def, lt_def]
    omega
  le_trans p q r := by
    simp only [le_def, lt_def]
    omega
  le_antisymm p q hpq hqp := by
    simp only [le_def, lt_def] at hpq hqp
    ext <;> omega
  le_total p q := by
    simp only [le_def, lt_def]
    omega
  lt_iff_le_not_ge p q := by
    simp only [le_def, lt_def]
    omega
  toDecidableLE := inferInstance
  toDecidableLT := inferInstance
  toDecidableEq := inferInstance

theorem start_le (p : Position) : start ≤ p := by
  have hline := p.line.pos
  have hcolumn := p.column.pos
  simp only [le_def, lt_def, start, Ordinal.value_first]
  omega

end Position

namespace Span

instance : LinearOrder Span where
  le_refl a := by
    rintro (h | ⟨-, h⟩) <;> exact lt_irrefl _ h
  le_trans a b c hab hbc := by
    simp only [le_def, lt_def, not_or, not_and, not_lt] at hab hbc ⊢
    refine ⟨hab.1.trans hbc.1, fun hca => ?_⟩
    have hba : b.lower = a.lower := le_antisymm (hbc.1.trans hca.le) hab.1
    exact (hab.2 hba).trans (hbc.2 (hca.trans hba.symm))
  le_antisymm a b hab hba := by
    simp only [le_def, lt_def, not_or, not_and, not_lt] at hab hba
    have hlower : a.lower = b.lower := le_antisymm hab.1 hba.1
    have hupper : a.upper = b.upper := le_antisymm (hab.2 hlower.symm) (hba.2 hlower)
    cases a
    cases b
    simp only [mk.injEq]
    exact ⟨hlower, hupper⟩
  le_total a b := by
    simp only [le_def, lt_def, not_or, not_and, not_lt]
    rcases lt_trichotomy a.lower b.lower with h | h | h
    · exact Or.inl ⟨h.le, fun he => absurd he h.ne'⟩
    · rcases le_total a.upper b.upper with hu | hu
      · exact Or.inl ⟨h.le, fun _ => hu⟩
      · exact Or.inr ⟨h.ge, fun _ => hu⟩
    · exact Or.inr ⟨h.le, fun he => absurd he h.ne'⟩
  lt_iff_le_not_ge a b := by
    simp only [le_def, not_not]
    constructor
    · intro hab
      refine ⟨?_, hab⟩
      rintro (hba | ⟨he, hba⟩) <;> rcases hab with hab | ⟨he', hab⟩
      · exact lt_asymm hab hba
      · exact hba.ne he'.symm
      · exact hab.ne he.symm
      · exact lt_asymm hab hba
    · exact And.right
  toDecidableLE := inferInstance
  toDecidableLT := inferInstance
  toDecidableEq := inferInstance

theorem le_iff {a b : Span} :
    a ≤ b ↔ a.lower ≤ b.lower ∧ (b.lower = a.lower → a.upper ≤ b.upper) := by
  simp only [le_def, lt_def, not_or, not_and, not_lt]

/-- Two spans in order overlap unless the second starts where the first has ended. An empty span
at the start of a longer one would do neither, but the order puts it first. -/
theorem overlaps_iff_of_le {a b : Span} (hab : a ≤ b) (hb : b.lower ≤ b.upper) :
    a.overlaps b = true ↔ b.lower < a.upper := by
  obtain ⟨hlower, htie⟩ := le_iff.1 hab
  simp only [overlaps, decide_eq_true_eq]
  constructor
  · exact And.right
  · intro hlt
    refine ⟨?_, hlt⟩
    by_contra hge
    have hle : b.upper ≤ a.lower := not_lt.1 hge
    have heq : b.lower = a.lower := le_antisymm (hb.trans hle) hlower
    exact absurd hlt (not_lt.2 ((htie heq).trans (hle.trans heq.ge)))

end Span

end Retouch
