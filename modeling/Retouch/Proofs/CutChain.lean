import Mathlib.Order.MinMax
import Retouch.Proofs.Offset

/-!
# Cuts one after the other

A cut loses nothing of its text, takes a character only while its bound is ahead, and stops before
the bound only where the text ends. This determines the cut. Two cuts, the second going on where the
first one ended, are therefore one cut at the larger of their bounds, and a chain of cuts is one cut
at its largest bound, whatever the order of the bounds.
-/

namespace Retouch

/-- What makes `c` the cut at `bound` of a text that starts at `here`. -/
structure IsCut (here bound : Position) (text : Text) (c : Cut) : Prop where
  append : c.taken ++ c.rest = text
  reached_eq : c.reached = here.after c.taken
  lt_bound : ∀ s, s <+: c.taken → s ≠ c.taken → here.after s < bound
  rest_eq_nil : c.reached < bound → c.rest = []

theorem after_lt_of_prefix_taken {here bound : Position} {text s : Text}
    (hs : s <+: (cut here bound text).taken) (hne : s ≠ (cut here bound text).taken) :
    here.after s < bound := by
  induction text generalizing here s with
  | nil => exact absurd (List.prefix_nil.1 hs) hne
  | cons c text ih =>
    by_cases hlt : here < bound
    · rw [cut, if_pos hlt] at hs hne
      rcases List.prefix_cons_iff.1 hs with rfl | ⟨t, rfl, ht⟩
      · exact hlt
      · rw [Position.after_cons]
        exact ih ht fun heq => hne (congrArg (c :: ·) heq)
    · rw [cut, if_neg hlt] at hs hne
      exact absurd (List.prefix_nil.1 hs) hne

theorem rest_eq_nil_of_reached_lt {here bound : Position} {text : Text}
    (h : (cut here bound text).reached < bound) : (cut here bound text).rest = [] := by
  induction text generalizing here with
  | nil => rfl
  | cons c text ih =>
    by_cases hlt : here < bound
    · rw [cut, if_pos hlt] at h ⊢
      exact ih h
    · rw [cut, if_neg hlt] at h
      exact absurd h hlt

theorem isCut_cut (here bound : Position) (text : Text) :
    IsCut here bound text (cut here bound text) where
  append := taken_append_rest here bound text
  reached_eq := reached_eq_after_taken here bound text
  lt_bound _ hs hne := after_lt_of_prefix_taken hs hne
  rest_eq_nil := rest_eq_nil_of_reached_lt

namespace IsCut

variable {here bound : Position} {text : Text} {c d : Cut}

theorem taken_prefix (h : IsCut here bound text c) : c.taken <+: text :=
  ⟨c.rest, h.append⟩

/-- A cut that stops before its bound has taken all there is, so no other cut takes more. -/
theorem taken_eq_of_prefix (hc : IsCut here bound text c) (hd : IsCut here bound text d)
    (h : c.taken <+: d.taken) : c.taken = d.taken := by
  by_contra hne
  have hlt : c.reached < bound := by
    rw [hc.reached_eq]
    exact hd.lt_bound c.taken h hne
  have hwhole : c.taken = text := by
    rw [← hc.append, hc.rest_eq_nil hlt, List.append_nil]
  have hback : d.taken <+: c.taken := hwhole ▸ hd.taken_prefix
  exact hne (h.eq_of_length_le hback.length_le)

theorem unique (hc : IsCut here bound text c) (hd : IsCut here bound text d) : c = d := by
  have htaken : c.taken = d.taken := by
    rcases List.prefix_or_prefix_of_prefix hc.taken_prefix hd.taken_prefix with h | h
    · exact hc.taken_eq_of_prefix hd h
    · exact (hd.taken_eq_of_prefix hc h).symm
  have hreached : c.reached = d.reached := by rw [hc.reached_eq, hd.reached_eq, htaken]
  have hrest : c.rest = d.rest := by
    apply (List.append_right_inj c.taken).1
    rw [hc.append, htaken, hd.append]
  cases c
  cases d
  simp only [Cut.mk.injEq]
  exact ⟨htaken, hrest, hreached⟩

end IsCut

theorem isCut_iff {here bound : Position} {text : Text} {c : Cut} :
    IsCut here bound text c ↔ c = cut here bound text := by
  constructor
  · intro h
    exact h.unique (isCut_cut here bound text)
  · rintro rfl
    exact isCut_cut here bound text

/-- Two cuts in a row, seen as one. -/
def Cut.followedBy (first second : Cut) : Cut :=
  ⟨first.taken ++ second.taken, second.rest, second.reached⟩

/-- Where the bound of the second cut is behind, it takes nothing. Where that of the first one is
out of reach, nothing is left for the second. -/
theorem IsCut.followedBy {here bound other : Position} {text : Text} {first second : Cut}
    (h : IsCut here bound text first)
    (hnext : IsCut first.reached other first.rest second) :
    IsCut here (max bound other) text (first.followedBy second) where
  append := by
    rw [Cut.followedBy, List.append_assoc, hnext.append, h.append]
  reached_eq := by
    rw [Cut.followedBy, Position.after_append, ← h.reached_eq, hnext.reached_eq]
  lt_bound s hs hne := by
    by_cases hfirst : first.taken <+: s
    · obtain ⟨t, rfl⟩ := hfirst
      have ht : t <+: second.taken := (List.prefix_append_right_inj first.taken).1 hs
      have hlt := hnext.lt_bound t ht fun heq => hne (congrArg (first.taken ++ ·) heq)
      rw [h.reached_eq, ← Position.after_append] at hlt
      exact hlt.trans_le (le_max_right bound other)
    · have hpart : s <+: first.taken :=
        (List.prefix_or_prefix_of_prefix hs (List.prefix_append _ _)).resolve_right hfirst
      have hlt := h.lt_bound s hpart fun heq => hfirst (heq ▸ List.prefix_rfl)
      exact hlt.trans_le (le_max_left bound other)
  rest_eq_nil hlt := by
    rcases lt_max_iff.1 hlt with hbound | hother
    · have hle : first.reached ≤ second.reached := by
        rw [hnext.reached_eq]
        exact Position.le_after _ _
      have hnone : second.taken ++ second.rest = [] := by
        rw [hnext.append, h.rest_eq_nil (hle.trans_lt hbound)]
      exact (List.append_eq_nil_iff.1 hnone).2
    · exact hnext.rest_eq_nil hother

/-- A chain of cuts is one cut at the largest of the bounds. -/
theorem isCut_cuts {bounds : List Position} {largest : Position} (here : Position) (text : Text)
    (h : bounds.max? = some largest) :
    ∃ last, (cuts here text bounds).getLast? = some last ∧
      IsCut here largest text
        ⟨(cuts here text bounds).flatMap Cut.taken, last.rest, last.reached⟩ := by
  induction bounds generalizing here text largest with
  | nil => cases h
  | cons bound bounds ih =>
    have hfirst := isCut_cut here bound text
    rw [List.max?_cons, Option.some.injEq] at h
    cases hmax : bounds.max? with
    | none =>
      obtain rfl := List.max?_eq_none_iff.1 hmax
      obtain rfl : bound = largest := by rwa [hmax] at h
      refine ⟨cut here bound text, rfl, ?_⟩
      simpa [cuts] using hfirst
    | some other =>
      obtain rfl : max bound other = largest := by rwa [hmax] at h
      obtain ⟨last, hlast, hrest⟩ :=
        ih (cut here bound text).reached (cut here bound text).rest hmax
      refine ⟨last, ?_, hfirst.followedBy hrest⟩
      rw [cuts, List.getLast?_cons, hlast, Option.getD_some]

/-- Cutting at bounds in turn takes, leaves and reaches what one cut at the largest of them does,
in whatever order they come. A single cut is the only one that loses nothing of the text, takes
nothing from its bound on, and stops before the bound only where the text ends. -/
theorem cuts_eq_cut_at_largest (here : Position) (text : Text) :
    (∀ (bounds : List Position) (hne : bounds ≠ []),
      ∃ last, (cuts here text bounds).getLast? = some last ∧
        cut here (bounds.max hne) text =
          ⟨(cuts here text bounds).flatMap Cut.taken, last.rest, last.reached⟩) ∧
    ∀ (bound : Position) (c : Cut), IsCut here bound text c ↔ c = cut here bound text := by
  constructor
  · intro bounds hne
    obtain ⟨last, hlast, hcut⟩ := isCut_cuts here text (List.max?_eq_some_max hne)
    exact ⟨last, hlast, (isCut_iff.1 hcut).symm⟩
  · intro bound c
    exact isCut_iff

/-- A bound past the end of the first line, one behind the place that is then reached, one after
all of the text, and again one behind. -/
def scatteredBounds : List Position :=
  [.ofZeroBased 0 9, .ofZeroBased 0 1, .ofZeroBased 6 0, .ofZeroBased 1 1]

theorem cuts_scatteredBounds :
    ∃ text : Text, text = ['a', 'b', '\n', 'c', 'd'] ∧ scatteredBounds ≠ [] ∧
      (cuts .start text scatteredBounds).map Cut.taken = [['a', 'b', '\n'], [], ['c', 'd'], []] ∧
      cut .start (.ofZeroBased 6 0) text =
        ⟨(cuts .start text scatteredBounds).flatMap Cut.taken, [], .ofZeroBased 1 2⟩ := by
  have hne : scatteredBounds ≠ [] := by decide
  obtain ⟨last, hlast, hcut⟩ :=
    (cuts_eq_cut_at_largest .start ['a', 'b', '\n', 'c', 'd']).1 scatteredBounds hne
  obtain rfl : ⟨[], [], .ofZeroBased 1 2⟩ = last := Option.some.inj hlast
  exact ⟨_, rfl, hne, by decide, hcut⟩

end Retouch
