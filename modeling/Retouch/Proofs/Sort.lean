import Mathlib.Data.List.Nodup
import Mathlib.Data.List.Sort
import Retouch.Proofs.Order

/-!
# Ordering edits by span

The order is a permutation of the edits with ascending spans, and it is stable: for each span, the
edits with that span stay as they were. These facts determine the result.
-/

namespace Retouch.Edit

theorem sort_perm (edits : List Edit) : (sort edits).Perm edits := List.mergeSort_perm _ _

theorem mem_sort {e : Edit} {edits : List Edit} : e ∈ sort edits ↔ e ∈ edits :=
  (sort_perm edits).mem_iff

theorem spanLE_trans (a b c : Edit) (hab : decide (a.span ≤ b.span) = true)
    (hbc : decide (b.span ≤ c.span) = true) : decide (a.span ≤ c.span) = true := by
  simp only [decide_eq_true_eq] at hab hbc ⊢
  exact hab.trans hbc

theorem spanLE_total (a b : Edit) :
    (decide (a.span ≤ b.span) || decide (b.span ≤ a.span)) = true := by
  simp only [Bool.or_eq_true, decide_eq_true_eq]
  exact le_total a.span b.span

theorem pairwise_sort (edits : List Edit) :
    (sort edits).Pairwise fun a b => a.span ≤ b.span := by
  have h := List.pairwise_mergeSort spanLE_trans spanLE_total edits
  simpa only [sort, decide_eq_true_eq] using h

theorem sort_eq_self {edits : List Edit} (h : edits.Pairwise fun a b => a.span ≤ b.span) :
    sort edits = edits := by
  apply List.mergeSort_of_pairwise
  simpa only [decide_eq_true_eq] using h

/-- Spans are linearly ordered, so their order does not depend on the order of discovery even
where edits share a span. -/
theorem map_span_sort_eq_of_perm {edits others : List Edit} (h : edits.Perm others) :
    (sort edits).map span = (sort others).map span := by
  have hperm : ((sort edits).map span).Perm ((sort others).map span) :=
    ((sort_perm edits).trans (h.trans (sort_perm others).symm)).map span
  refine hperm.eq_of_pairwise (fun a b _ _ hab hba => le_antisymm hab hba) ?_ ?_
  · exact List.pairwise_map.2 (pairwise_sort edits)
  · exact List.pairwise_map.2 (pairwise_sort others)

/-- The edits with a given span, in their order. -/
def withSpan (s : Span) (edits : List Edit) : List Edit := edits.filter fun e => e.span = s

theorem mem_withSpan {e : Edit} {s : Span} {edits : List Edit} :
    e ∈ withSpan s edits ↔ e ∈ edits ∧ e.span = s := by
  simp [withSpan]

/-- The order of edits is stable. -/
theorem withSpan_sort (s : Span) (edits : List Edit) :
    withSpan s (sort edits) = withSpan s edits := by
  have htied : (withSpan s edits).Pairwise fun a b => decide (a.span ≤ b.span) = true := by
    apply List.pairwise_of_forall_mem_list
    intro a ha b hb
    rw [(mem_withSpan.1 ha).2, (mem_withSpan.1 hb).2]
    exact decide_eq_true (le_refl s)
  have hsub : (withSpan s edits).Sublist (sort edits) :=
    List.sublist_mergeSort spanLE_trans spanLE_total htied List.filter_sublist
  have hfiltered : (withSpan s edits).Sublist (withSpan s (sort edits)) := by
    have h := hsub.filter fun e => decide (e.span = s)
    simpa only [withSpan, List.filter_filter, Bool.and_self] using h
  exact (hfiltered.eq_of_length (((sort_perm edits).filter _).length_eq).symm).symm

theorem head_span_eq {a b : Edit} {l m : List Edit}
    (hl : (a :: l).Pairwise fun a b => a.span ≤ b.span)
    (hm : (b :: m).Pairwise fun a b => a.span ≤ b.span)
    (h : ∀ s, withSpan s (a :: l) = withSpan s (b :: m)) : a.span = b.span := by
  have hle : ∀ {x y : Edit} {xs ys : List Edit},
      (y :: ys).Pairwise (fun a b => a.span ≤ b.span) →
      (∀ s, withSpan s (x :: xs) = withSpan s (y :: ys)) → y.span ≤ x.span := by
    intro x y xs ys hys hxy
    have hx : x ∈ withSpan x.span (x :: xs) := mem_withSpan.2 ⟨List.mem_cons_self, rfl⟩
    rw [hxy] at hx
    rcases List.mem_cons.1 (mem_withSpan.1 hx).1 with rfl | hx'
    · exact le_refl _
    · exact List.rel_of_pairwise_cons hys hx'
  exact le_antisymm (hle hl fun s => (h s).symm) (hle hm h)

/-- Edits in order are determined by the edits they have for each span. -/
theorem eq_of_withSpan_eq {l m : List Edit} (hl : l.Pairwise fun a b => a.span ≤ b.span)
    (hm : m.Pairwise fun a b => a.span ≤ b.span) (h : ∀ s, withSpan s l = withSpan s m) :
    l = m := by
  induction l generalizing m with
  | nil =>
    cases m with
    | nil => rfl
    | cons b m => simpa [withSpan] using h b.span
  | cons a l ih =>
    cases m with
    | nil => simpa [withSpan] using h a.span
    | cons b m =>
      have hspan := head_span_eq hl hm h
      have hhead := h a.span
      simp only [withSpan, List.filter_cons, decide_true, if_true, hspan] at hhead
      obtain ⟨rfl, -⟩ := List.cons.inj hhead
      congr 1
      apply ih hl.tail hm.tail
      intro s
      have hs := h s
      simp only [withSpan, List.filter_cons] at hs ⊢
      split_ifs at hs
      · exact List.cons.inj hs |>.2
      · exact hs

theorem sort_eq_of_withSpan_eq {edits others : List Edit}
    (h : ∀ s, withSpan s edits = withSpan s others) : sort edits = sort others := by
  apply eq_of_withSpan_eq (pairwise_sort edits) (pairwise_sort others)
  intro s
  rw [withSpan_sort, withSpan_sort, h]

/-- Edits with distinct spans are alone with their span, so any order of them will do. -/
theorem withSpan_eq_of_nodup {edits others : List Edit} (hperm : edits.Perm others)
    (hnodup : (edits.map Edit.span).Nodup) (s : Span) : withSpan s edits = withSpan s others := by
  have hfilter : (withSpan s edits).Perm (withSpan s others) := hperm.filter _
  have hany : ∀ l : List Edit, l.Pairwise fun _ _ => True :=
    fun _ => List.pairwise_of_forall fun _ _ => trivial
  refine hfilter.eq_of_pairwise ?_ (hany _) (hany _)
  intro a b ha hb _ _
  obtain ⟨ha, hsa⟩ := mem_withSpan.1 ha
  obtain ⟨hb, hsb⟩ := mem_withSpan.1 hb
  exact List.inj_on_of_nodup_map hnodup ha (hperm.mem_iff.2 hb) (hsa.trans hsb.symm)

theorem sort_eq_of_perm {edits ordered : List Edit} (hperm : edits.Perm ordered)
    (hnodup : (edits.map Edit.span).Nodup)
    (hordered : ordered.Pairwise fun a b => a.span ≤ b.span) : sort edits = ordered := by
  rw [sort_eq_of_withSpan_eq (withSpan_eq_of_nodup hperm hnodup), sort_eq_self hordered]

end Retouch.Edit
