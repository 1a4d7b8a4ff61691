import Retouch.Proofs.Outcome
import Retouch.Proofs.Outermost
import Retouch.Proofs.Ranges
import Retouch.Proofs.Sort

/-!
# Strict reprinting is editing by offsets

Edits that pass both checks have spans that lie one after the other and whose bounds are positions
of the text. So they are range edits with ascending offsets, and the reprint applies these.
-/

namespace Retouch

/-- Proper spans that lie one after the other from `here` on. -/
def InOrder (here : Position) : List Edit → Prop
  | [] => True
  | e :: edits =>
    here ≤ e.span.lower ∧ e.span.lower ≤ e.span.upper ∧ InOrder e.span.upper edits

theorem InOrder.mono {here before : Position} {edits : List Edit} (h : InOrder here edits)
    (hbefore : before ≤ here) : InOrder before edits := by
  cases edits with
  | nil => trivial
  | cons e edits => exact ⟨hbefore.trans h.1, h.2⟩

theorem InOrder.lower_le {here : Position} {edits : List Edit} (h : InOrder here edits)
    {e : Edit} (he : e ∈ edits) : here ≤ e.span.lower ∧ e.span.lower ≤ e.span.upper := by
  induction edits generalizing here with
  | nil => cases he
  | cons d edits ih =>
    obtain ⟨hlower, hproper, hrest⟩ := h
    rcases List.mem_cons.1 he with rfl | he
    · exact ⟨hlower, hproper⟩
    · obtain ⟨hle, hproper'⟩ := ih hrest he
      exact ⟨hlower.trans (hproper.trans hle), hproper'⟩

theorem InOrder.pairwise_upper_le {here : Position} {edits : List Edit} (h : InOrder here edits) :
    edits.Pairwise fun a b => a.span.upper ≤ b.span.lower := by
  induction edits generalizing here with
  | nil => exact List.Pairwise.nil
  | cons d edits ih =>
    refine List.Pairwise.cons ?_ (ih h.2.2)
    intro e he
    exact (h.2.2.lower_le he).1

theorem InOrder.isChain {here : Position} {edits : List Edit} (h : InOrder here edits) :
    edits.IsChain fun a b => a.span.upper ≤ b.span.lower := by
  induction edits generalizing here with
  | nil => exact .nil
  | cons d edits ih =>
    cases edits with
    | nil => exact .singleton d
    | cons e edits => exact .cons_cons h.2.2.1 (ih h.2.2)

theorem InOrder.firstOverlap_eq_none {here : Position} {edits : List Edit}
    (h : InOrder here edits) : firstOverlap edits = none := by
  induction edits generalizing here with
  | nil => rfl
  | cons d edits ih =>
    cases edits with
    | nil => rfl
    | cons e edits =>
      have hrest := ih h.2.2
      have hapart : d.span.overlaps e.span = false := by
        simp only [Span.overlaps, decide_eq_false_iff_not, not_and, not_lt]
        exact fun _ => h.2.2.1
      rw [firstOverlap, hapart, hrest]
      rfl

/-- Neighbours that do not overlap are enough, since the edits are in the order of their spans. -/
theorem inOrder_of_firstOverlap_eq_none {here : Position} {edits : List Edit}
    (hsorted : edits.Pairwise fun a b => a.span ≤ b.span)
    (hproper : ∀ e ∈ edits, e.span.lower ≤ e.span.upper)
    (hhere : ∀ e ∈ edits.head?, here ≤ e.span.lower) (h : firstOverlap edits = none) :
    InOrder here edits := by
  induction edits generalizing here with
  | nil => trivial
  | cons d edits ih =>
    refine ⟨hhere d rfl, hproper d List.mem_cons_self, ?_⟩
    cases edits with
    | nil => trivial
    | cons e edits =>
      rw [firstOverlap] at h
      split at h
      · cases h
      · rename_i hapart
        have hde : d.span ≤ e.span := List.rel_of_pairwise_cons hsorted List.mem_cons_self
        rw [Span.overlaps_iff_of_le hde (hproper e (by simp)), not_lt] at hapart
        apply ih hsorted.tail (fun e' he' => hproper e' (List.mem_cons_of_mem d he')) _ h
        rintro _ ⟨⟩
        exact hapart

/-- Edits in order that pass both checks lie one after the other, at positions of the text. -/
theorem inOrder_of_check {source : Text} {edits : List Edit}
    (hsorted : edits.Pairwise fun a b => a.span ≤ b.span)
    (hproper : ∀ e ∈ edits, e.span.lower ≤ e.span.upper)
    (hcheck : check .strict source edits = .ok ()) :
    InOrder .start edits ∧
      ∀ e ∈ edits, HasPosition source e.span.lower ∧ HasPosition source e.span.upper := by
  obtain ⟨hoverlap, hbounds⟩ := (check_eq_ok_iff _ _ _).1 hcheck
  constructor
  · exact inOrder_of_firstOverlap_eq_none hsorted hproper (fun _ _ => Position.start_le _)
      (hoverlap rfl)
  · exact (firstOutOfBounds_eq_none_iff _ _).1 (hbounds rfl)

theorem exists_ranges {source : Text} {lo : Nat} {edits : List Edit} (hlo : lo ≤ source.length)
    (horder : InOrder (positionAt source lo) edits)
    (hbounds : ∀ e ∈ edits, HasPosition source e.span.lower ∧ HasPosition source e.span.upper) :
    ∃ ranges, edits = ranges.map (RangeEdit.toEdit source) ∧
      Ascending lo source.length ranges := by
  induction edits generalizing lo with
  | nil => exact ⟨[], rfl, hlo⟩
  | cons e edits ih =>
    obtain ⟨hhere, hproper, hrest⟩ := horder
    obtain ⟨⟨lower, hlower, hlowerAt⟩, upper, hupper, hupperAt⟩ := hbounds e List.mem_cons_self
    rw [← hlowerAt] at hhere hproper
    rw [← hupperAt] at hproper hrest
    obtain ⟨ranges, hranges, hascending⟩ :=
      ih hupper hrest fun e' he' => hbounds e' (List.mem_cons_of_mem e he')
    refine ⟨⟨lower, upper, e.placement, e.text⟩ :: ranges, ?_, ?_⟩
    · rw [List.map_cons, ← hranges, RangeEdit.toEdit, hlowerAt, hupperAt]
    · exact ⟨(positionAt_le_iff hlo hlower).1 hhere,
        (positionAt_le_iff hlower hupper).1 hproper, hascending⟩

theorem Ascending.bounds_le {α : Type} {lo hi : Nat} {ranges : List (RangeEdit α)}
    (h : Ascending lo hi ranges) {r : RangeEdit α} (hr : r ∈ ranges) :
    r.lower ≤ hi ∧ r.upper ≤ hi := by
  induction ranges generalizing lo with
  | nil => cases hr
  | cons s ranges ih =>
    obtain ⟨-, hrange, hrest⟩ := h
    rcases List.mem_cons.1 hr with rfl | hr
    · exact ⟨hrange.trans hrest.le, hrest.le⟩
    · exact ih hrest hr

theorem Ascending.inOrder {source : Text} {lo : Nat} {ranges : List (RangeEdit Char)}
    (h : Ascending lo source.length ranges) :
    InOrder (positionAt source lo) (ranges.map (RangeEdit.toEdit source)) := by
  induction ranges generalizing lo with
  | nil => trivial
  | cons r ranges ih =>
    have hhi := h.2.2.le
    obtain ⟨hlo, hrange, hrest⟩ := h
    have hlower : r.lower ≤ source.length := hrange.trans hhi
    exact ⟨(positionAt_le_iff (hlo.trans hlower) hlower).2 hlo,
      (positionAt_le_iff hlower hhi).2 hrange, ih hrest⟩

/-- Edits with ascending offsets of the text pass every check. -/
theorem Ascending.check_eq_ok {source : Text} {lo : Nat} {ranges : List (RangeEdit Char)}
    (h : Ascending lo source.length ranges) (settings : Settings) :
    check settings source (ranges.map (RangeEdit.toEdit source)) = .ok () := by
  rw [check_eq_ok_iff, firstOutOfBounds_eq_none_iff]
  refine ⟨fun _ => h.inOrder.firstOverlap_eq_none, fun _ => ?_⟩
  rw [List.forall_mem_map]
  intro r hr
  obtain ⟨hlower, hupper⟩ := h.bounds_le hr
  exact ⟨⟨r.lower, hlower, rfl⟩, ⟨r.upper, hupper, rfl⟩⟩

/-- Edits with proper spans that pass both checks after they have been put in order are range
edits with ascending offsets of the text. -/
theorem exists_ranges_of_check {source : Text} {found : List Edit}
    (hproper : ∀ e ∈ found, e.span.lower ≤ e.span.upper)
    (hcheck : check .strict source (Edit.sort found) = .ok ()) :
    ∃ ranges, Edit.sort found = ranges.map (RangeEdit.toEdit source) ∧
      Ascending 0 source.length ranges := by
  obtain ⟨horder, hbounds⟩ := inOrder_of_check (Edit.pairwise_sort found)
    (fun e he => hproper e (Edit.mem_sort.1 he)) hcheck
  exact exists_ranges (Nat.zero_le _) horder hbounds

variable {α σ ε : Type}

/-- A strict reprint that succeeds is editing by offsets: each bound of each edit found is the
position of one offset only, the edits in order are range edits with ascending offsets, the output
is these range edits applied to the text, and so every character outside the ranges is kept. -/
theorem strict_outcome_eq_applyFrom (v : Visitor α σ ε) (tree : Tree α) {source out : Text}
    (state : σ) (hsource : source ≠ [])
    (hproper : ∀ e ∈ (walk v tree state).edits, e.span.lower ≤ e.span.upper)
    (hout : (Settings.strict.reprint? v tree source state).outcome = .ok out) :
    ∃ found, (walk v tree state).result = .ok found ∧
      (∀ e ∈ found, (∃! k, k ≤ source.length ∧ positionAt source k = e.span.lower) ∧
        ∃! k, k ≤ source.length ∧ positionAt source k = e.span.upper) ∧
      ∃ ranges : List (RangeEdit Char),
        Edit.sort found = ranges.map (RangeEdit.toEdit source) ∧
        Ascending 0 source.length ranges ∧
        out = applyFrom source 0 ranges ∧
        KeepsOutside ranges source out := by
  obtain ⟨found, hfound, hcheck, rfl⟩ := (outcome_reprint?_eq_ok_iff hsource).1 hout
  have hedits : (walk v tree state).edits = found := (Walked.result_eq_ok_iff.1 hfound).2
  rw [hedits] at hproper
  obtain ⟨ranges, hranges, hascending⟩ := exists_ranges_of_check hproper hcheck
  have hbounds := (firstOutOfBounds_eq_none_iff _ _).1 (((check_eq_ok_iff _ _ _).1 hcheck).2 rfl)
  have hsplice : splice (Edit.sort found) source = applyFrom source 0 ranges := by
    rw [hranges, splice_toEdit source hascending]
  refine ⟨found, hfound, fun e he => ?_, ranges, hranges, hascending, hsplice, ?_⟩
  · obtain ⟨hlower, hupper⟩ := hbounds e (Edit.mem_sort.2 he)
    exact ⟨hlower.existsUnique, hupper.existsUnique⟩
  · rw [hsplice]
    exact keepsOutside_applyFrom hascending

/-- An edit of the second line, which is reported first, and two of the first line. -/
def scattered : Tree (Option Edit) :=
  .node none
    [.node (some ⟨.after, ['!'], ⟨.ofZeroBased 1 0, .ofZeroBased 1 1⟩⟩) [],
      .node (some ⟨.replace, ['X'], ⟨.ofZeroBased 0 0, .ofZeroBased 0 1⟩⟩) [],
      .node (some ⟨.before, ['<'], .point (.ofZeroBased 0 2)⟩) []]

theorem strict_outcome_of_scattered :
    ∃ (source out : Text) (ranges : List (RangeEdit Char)),
      source = ['a', 'b', '\n', 'c', 'd'] ∧ out = ['X', 'b', '<', '\n', 'c', '!', 'd'] ∧
      (∀ e ∈ (walk .ofLabels scattered ()).edits, e.span.lower ≤ e.span.upper) ∧
      (Settings.strict.reprint? .ofLabels scattered source ()).outcome = .ok out ∧
      Ascending 0 source.length ranges ∧ out = applyFrom source 0 ranges ∧
      KeepsOutside ranges source out := by
  have hfound : (walk .ofLabels scattered ()).result =
      .ok (scattered.children.filterMap Tree.label) := result_walk_ofAnswer _ scattered ()
  have hproper : ∀ e ∈ (walk .ofLabels scattered ()).edits, e.span.lower ≤ e.span.upper := by
    rw [(Walked.result_eq_ok_iff.1 hfound).2]
    decide
  have hout : (Settings.strict.reprint? .ofLabels scattered ['a', 'b', '\n', 'c', 'd']
      ()).outcome = .ok ['X', 'b', '<', '\n', 'c', '!', 'd'] := by
    have hsort : Edit.sort (scattered.children.filterMap Tree.label) =
        ((scattered.children.rotate 1).filterMap Tree.label) :=
      Edit.sort_eq_of_perm (by decide) (by decide) (by decide)
    rw [outcome_reprint?_eq_ok_iff (by decide)]
    refine ⟨_, hfound, ?_, ?_⟩
    · rw [hsort]
      decide
    · rw [hsort]
      decide
  obtain ⟨-, -, -, ranges, -, hascending, happly, hkeeps⟩ :=
    strict_outcome_eq_applyFrom .ofLabels scattered () (by decide) hproper hout
  exact ⟨_, _, ranges, rfl, rfl, hproper, hout, hascending, happly, hkeeps⟩

end Retouch
