import Mathlib.Data.List.Chain
import Retouch.Proofs.Strict

/-!
# Edits that are in conflict

Two spans are in conflict if they share a position, or if one is empty and strictly inside the
other. The check of overlaps compares neighbours only and by two inequalities, but of edits that
are in order it finds a conflict exactly if there is one, however far apart the two edits are.
-/

namespace Retouch

namespace Span

/-- An empty span with its place strictly between the bounds of another one. -/
def EmptyInside (a b : Span) : Prop :=
  a.lower = a.upper ∧ b.lower < a.lower ∧ a.lower < b.upper

def Conflicts (a b : Span) : Prop :=
  (∃ p, a.contains p = true ∧ b.contains p = true) ∨ a.EmptyInside b ∨ b.EmptyInside a

theorem contains_iff {a : Span} {p : Position} :
    a.contains p = true ↔ a.lower ≤ p ∧ p < a.upper := by
  simp only [contains, decide_eq_true_eq]

theorem overlaps_iff {a b : Span} :
    a.overlaps b = true ↔ a.lower < b.upper ∧ b.lower < a.upper := by
  simp only [overlaps, decide_eq_true_eq]

theorem Conflicts.symm {a b : Span} (h : a.Conflicts b) : b.Conflicts a := by
  rcases h with ⟨p, ha, hb⟩ | hinside | hinside
  · exact Or.inl ⟨p, hb, ha⟩
  · exact Or.inr (Or.inr hinside)
  · exact Or.inr (Or.inl hinside)

/-- Of two spans that overlap and are not empty, the later lower bound is in both. -/
theorem overlaps_iff_conflicts {a b : Span} (ha : a.lower ≤ a.upper) (hb : b.lower ≤ b.upper) :
    a.overlaps b = true ↔ a.Conflicts b := by
  rw [overlaps_iff]
  constructor
  · rintro ⟨hab, hba⟩
    rcases ha.eq_or_lt with hempty | ha
    · exact Or.inr (Or.inl ⟨hempty, hempty ▸ hba, hab⟩)
    rcases hb.eq_or_lt with hempty | hb
    · exact Or.inr (Or.inr ⟨hempty, hempty ▸ hab, hba⟩)
    refine Or.inl ⟨max a.lower b.lower, contains_iff.2 ⟨le_max_left _ _, ?_⟩,
      contains_iff.2 ⟨le_max_right _ _, ?_⟩⟩
    · exact max_lt ha hba
    · exact max_lt hab hb
  · rintro (⟨p, hpa, hpb⟩ | ⟨hempty, hlower, hupper⟩ | ⟨hempty, hlower, hupper⟩)
    · obtain ⟨hlowerA, hupperA⟩ := contains_iff.1 hpa
      obtain ⟨hlowerB, hupperB⟩ := contains_iff.1 hpb
      exact ⟨hlowerA.trans_lt hupperB, hlowerB.trans_lt hupperA⟩
    · exact ⟨hupper, hempty ▸ hlower⟩
    · exact ⟨hempty ▸ hlower, hupper⟩

/-- Of two spans in order, the second is in conflict with the first exactly if it starts before the
first has ended. -/
theorem conflicts_iff_of_le {a b : Span} (hab : a ≤ b) (ha : a.lower ≤ a.upper)
    (hb : b.lower ≤ b.upper) : a.Conflicts b ↔ b.lower < a.upper := by
  rw [← overlaps_iff_conflicts ha hb, overlaps_iff_of_le hab hb]

end Span

/-- The search goes on past an edit that its neighbour does not overlap. -/
theorem firstOverlap_cons {a : Edit} {edits : List Edit}
    (h : ∀ b ∈ edits.head?, a.span.overlaps b.span = false) :
    firstOverlap (a :: edits) = firstOverlap edits := by
  cases edits with
  | nil => rfl
  | cons b edits =>
    rw [firstOverlap, h b rfl]
    rfl

/-- What is reported is the first pair of neighbours that overlap. -/
theorem firstOverlap_eq_some_iff {edits : List Edit} {fault : Fault} :
    firstOverlap edits = some fault ↔
      ∃ before previous next after, edits = before ++ previous :: next :: after ∧
        (before ++ [previous]).IsChain (fun a b => a.span.overlaps b.span = false) ∧
        previous.span.overlaps next.span = true ∧
        fault = .overlapping previous.span next.span := by
  constructor
  · intro h
    fun_induction firstOverlap edits with
    | case1 a b edits hover =>
      obtain rfl := Option.some.inj h
      exact ⟨[], a, b, edits, rfl, .singleton a, hover, rfl⟩
    | case2 a b edits hapart ih =>
      obtain ⟨before, previous, next, after, hsplit, hchain, hover, hfault⟩ := ih h
      refine ⟨a :: before, previous, next, after, by rw [hsplit]; rfl, ?_, hover, hfault⟩
      have hhead : (before ++ [previous]).head? = some b := by
        have hheads := congrArg List.head? hsplit
        rw [List.head?_append] at hheads ⊢
        exact hheads.symm
      rw [List.cons_append, List.isChain_cons, hhead]
      refine ⟨?_, hchain⟩
      rintro _ ⟨⟩
      simpa using hapart
    | case3 => cases h
  · rintro ⟨before, previous, next, after, rfl, hchain, hover, rfl⟩
    induction before with
    | nil => rw [List.nil_append, firstOverlap, if_pos hover]
    | cons a before ih =>
      rw [List.cons_append, List.isChain_cons, List.head?_append] at hchain
      have hapart : ∀ b ∈ (before ++ previous :: next :: after).head?,
          a.span.overlaps b.span = false := by
        rw [List.head?_append]
        exact hchain.1
      rw [List.cons_append, firstOverlap_cons hapart, ih hchain.2]

section

variable {edits : List Edit} (hproper : ∀ e ∈ edits, e.span.lower ≤ e.span.upper)

include hproper

theorem overlaps_eq_false_iff {a b : Edit} (ha : a ∈ edits) (hb : b ∈ edits) :
    a.span.overlaps b.span = false ↔ ¬ a.span.Conflicts b.span := by
  rw [← Span.overlaps_iff_conflicts (hproper a ha) (hproper b hb), Bool.not_eq_true]

variable (hsorted : edits.Pairwise fun a b => a.span ≤ b.span)

include hsorted

/-- In order, neighbours that are not in conflict are enough for all pairs: each edit then starts
after all before it have ended. -/
theorem firstOverlap_eq_none_iff_pairwise :
    firstOverlap edits = none ↔ edits.Pairwise fun a b => ¬ a.span.Conflicts b.span := by
  constructor
  · intro h
    have horder : InOrder .start edits :=
      inOrder_of_firstOverlap_eq_none hsorted hproper (fun _ _ => Position.start_le _) h
    refine (hsorted.and horder.pairwise_upper_le).imp_of_mem ?_
    rintro a b ha hb ⟨hab, hends⟩
    rw [Span.conflicts_iff_of_le hab (hproper a ha) (hproper b hb)]
    exact not_lt.2 hends
  · intro h
    cases hfirst : firstOverlap edits with
    | none => rfl
    | some fault =>
      obtain ⟨before, previous, next, after, rfl, -, hover, -⟩ := firstOverlap_eq_some_iff.1 hfirst
      have hapart := (List.isChain_append_cons_cons.1 h.isChain).2.1
      rw [← overlaps_eq_false_iff hproper (by simp) (by simp), hover] at hapart
      cases hapart

/-- In order, what is reported is the first pair of neighbours in conflict. -/
theorem firstOverlap_eq_some_iff_conflicts {fault : Fault} :
    firstOverlap edits = some fault ↔
      ∃ before previous next after, edits = before ++ previous :: next :: after ∧
        (before ++ [previous]).IsChain (fun a b => ¬ a.span.Conflicts b.span) ∧
        previous.span.Conflicts next.span ∧ next.span.lower < previous.span.upper ∧
        fault = .overlapping previous.span next.span := by
  rw [firstOverlap_eq_some_iff]
  refine exists₄_congr fun before previous next after => and_congr_right fun hsplit => ?_
  have hprevious : previous ∈ edits := by simp [hsplit]
  have hnext : next ∈ edits := by simp [hsplit]
  have hle : previous.span ≤ next.span := by
    rw [hsplit] at hsorted
    exact (List.isChain_append_cons_cons.1 hsorted.isChain).2.1
  have hinitial : before ++ [previous] <+: edits := by
    rw [hsplit]
    exact ⟨next :: after, List.append_assoc _ _ _⟩
  rw [List.IsChain.iff_of_mem_imp fun a b ha hb =>
      overlaps_eq_false_iff hproper (hinitial.subset ha) (hinitial.subset hb),
    Span.overlaps_iff_conflicts (hproper _ hprevious) (hproper _ hnext),
    Span.conflicts_iff_of_le hle (hproper _ hprevious) (hproper _ hnext), and_self_left]

end

theorem pairwise_iff_forall_ne {α : Type} {R : α → α → Prop} (hsymm : ∀ {a b}, R a b → R b a)
    {l : List α} : l.Pairwise R ↔ ∀ i j : Fin l.length, i ≠ j → R (l.get i) (l.get j) := by
  rw [List.pairwise_iff_get]
  constructor
  · intro h i j hij
    rcases lt_or_gt_of_ne hij with hlt | hgt
    · exact h i j hlt
    · exact hsymm (h j i hgt)
  · intro h i j hij
    exact h i j hij.ne

/-- Nothing but overlaps is looked for. -/
def Settings.overlapsOnly : Settings := ⟨true, false⟩

theorem firstFault_overlapsOnly (text : Text) (edits : List Edit) :
    firstFault .overlapsOnly text edits = firstOverlap edits := Option.or_none

/-- Of edits with proper spans that are put in order, the check of overlaps passes exactly those
among which no two are in conflict. It fails exactly with the first neighbours in conflict, and of
these the second starts before the first has ended. -/
theorem check_overlaps_exact (text : Text) {edits : List Edit}
    (hproper : ∀ e ∈ edits, e.span.lower ≤ e.span.upper) :
    (check .overlapsOnly text (Edit.sort edits) = .ok () ↔
      ∀ i j : Fin edits.length, i ≠ j → ¬ (edits.get i).span.Conflicts (edits.get j).span) ∧
    ∀ fault, check .overlapsOnly text (Edit.sort edits) = .error fault ↔
      ∃ before previous next after,
        Edit.sort edits = before ++ previous :: next :: after ∧
        (before ++ [previous]).IsChain (fun a b => ¬ a.span.Conflicts b.span) ∧
        previous.span.Conflicts next.span ∧ next.span.lower < previous.span.upper ∧
        fault = .overlapping previous.span next.span := by
  have hsorted := Edit.pairwise_sort edits
  have hproper' : ∀ e ∈ Edit.sort edits, e.span.lower ≤ e.span.upper := fun e he =>
    hproper e (Edit.mem_sort.1 he)
  have hsymm : ∀ {a b : Edit}, ¬ a.span.Conflicts b.span → ¬ b.span.Conflicts a.span :=
    fun hab hba => hab hba.symm
  constructor
  · calc check .overlapsOnly text (Edit.sort edits) = .ok ()
        ↔ firstOverlap (Edit.sort edits) = none := by
          rw [check_eq_ok_iff]
          simp [Settings.overlapsOnly]
      _ ↔ (Edit.sort edits).Pairwise fun a b => ¬ a.span.Conflicts b.span :=
          firstOverlap_eq_none_iff_pairwise hproper' hsorted
      _ ↔ edits.Pairwise fun a b => ¬ a.span.Conflicts b.span :=
          (Edit.sort_perm edits).pairwise_iff hsymm
      _ ↔ _ := pairwise_iff_forall_ne hsymm
  · intro fault
    rw [check_eq_error_iff, firstFault_overlapsOnly]
    exact firstOverlap_eq_some_iff_conflicts hproper' hsorted

/-- An insertion that is found first, and two longer spans, the second of which is in conflict with
the first over the insertion between them. -/
def nestedEdits : List Edit :=
  [⟨.before, ['!'], .point (.ofZeroBased 0 2)⟩,
    ⟨.replace, [], .ofZeroBased 0 3, .ofZeroBased 0 6⟩,
    ⟨.replace, [], .ofZeroBased 0 0, .ofZeroBased 0 4⟩]

theorem check_nestedEdits :
    ∃ fault, (∀ e ∈ nestedEdits, e.span.lower ≤ e.span.upper) ∧
      check .overlapsOnly [] (Edit.sort nestedEdits) = .error fault ∧
      fault = .overlapping ⟨.ofZeroBased 0 0, .ofZeroBased 0 4⟩ (.point (.ofZeroBased 0 2)) ∧
      (∃ previous ∈ nestedEdits, ∃ next ∈ nestedEdits,
        previous.span.Conflicts next.span ∧ fault = .overlapping previous.span next.span) ∧
      ∃ i j : Fin nestedEdits.length,
        i ≠ j ∧ (nestedEdits.get i).span.Conflicts (nestedEdits.get j).span := by
  have hproper : ∀ e ∈ nestedEdits, e.span.lower ≤ e.span.upper := by decide
  have hsort : Edit.sort nestedEdits = [⟨.replace, [], .ofZeroBased 0 0, .ofZeroBased 0 4⟩,
      ⟨.before, ['!'], .point (.ofZeroBased 0 2)⟩,
      ⟨.replace, [], .ofZeroBased 0 3, .ofZeroBased 0 6⟩] :=
    Edit.sort_eq_of_perm (by decide) (by decide) (by decide)
  have hcheck : check .overlapsOnly [] (Edit.sort nestedEdits) =
      .error (.overlapping ⟨.ofZeroBased 0 0, .ofZeroBased 0 4⟩ (.point (.ofZeroBased 0 2))) := by
    rw [hsort]
    decide
  obtain ⟨hok, herror⟩ := check_overlaps_exact [] hproper
  obtain ⟨before, previous, next, after, hsplit, -, hconflict, -, hfault⟩ := (herror _).1 hcheck
  refine ⟨_, hproper, hcheck, rfl, ⟨previous, ?_, next, ?_, hconflict, hfault⟩, ?_⟩
  · exact Edit.mem_sort.1 (by simp [hsplit])
  · exact Edit.mem_sort.1 (by simp [hsplit])
  · by_contra hnone
    have hpassed := hok.2 fun i j hij hconflict => hnone ⟨i, j, hij, hconflict⟩
    rw [hcheck] at hpassed
    cases hpassed

end Retouch
