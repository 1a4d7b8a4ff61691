import Mathlib.Data.List.Chain
import Retouch.Proofs.Strict

/-!
# Bounds after the end of a text

A splice without checks may meet bounds after the end of the text. Such a bound stands for the end,
whether it is past the last column or on a line that is missing. Once the text has run out, the
cursor is no longer the position of what remains. But then nothing remains, and the edits that are
left do no more than add their texts.
-/

namespace Retouch

/-- A bound that the text has or that is after all of it. Only the columns past the end of a line
before the last are neither. -/
def MetOrPast (source : Text) (bound : Position) : Prop :=
  HasPosition source bound ∨ Position.start.after source < bound

instance (source : Text) (bound : Position) : Decidable (MetOrPast source bound) :=
  inferInstanceAs (Decidable (_ ∨ _))

/-- The offset that has the position `bound`, or the length of the text if none has. -/
def offsetOf (source : Text) (bound : Position) : Nat :=
  ((List.range (source.length + 1)).find? fun k => positionAt source k = bound).getD source.length

/-- The edit by offsets, in which a bound after the end is the end. -/
def Edit.toRange (source : Text) (e : Edit) : RangeEdit Char :=
  ⟨offsetOf source e.span.lower, offsetOf source e.span.upper, e.placement, e.text⟩

/-- The edit with its bounds moved back into the text. -/
def Edit.clamped (source : Text) (e : Edit) : Edit := (e.toRange source).toEdit source

theorem HasPosition.le_end {source : Text} {p : Position} (h : HasPosition source p) :
    p ≤ Position.start.after source := by
  obtain ⟨k, hk, rfl⟩ := h
  rw [← positionAt_length]
  exact (positionAt_le_iff hk le_rfl).2 hk

theorem offsetOf_positionAt {source : Text} {k : Nat} (hk : k ≤ source.length) :
    offsetOf source (positionAt source k) = k := by
  have hfind : (List.range (source.length + 1)).find?
      (fun j => positionAt source j = positionAt source k) = some k := by
    refine List.find?_range_eq_some.2 ⟨decide_eq_true rfl, List.mem_range.2 (by omega), ?_⟩
    intro j hj
    simpa using (positionAt_lt hj hk).ne
  rw [offsetOf, hfind, Option.getD_some]

theorem offsetOf_of_end_lt {source : Text} {bound : Position}
    (h : Position.start.after source < bound) : offsetOf source bound = source.length := by
  have hfind : (List.range (source.length + 1)).find?
      (fun k => positionAt source k = bound) = none := by
    rw [List.find?_range_eq_none]
    intro k hk
    have hle : positionAt source k ≤ Position.start.after source :=
      HasPosition.le_end ⟨k, by omega, rfl⟩
    simpa using (hle.trans_lt h).ne
  rw [offsetOf, hfind, Option.getD_none]

theorem offsetOf_start (source : Text) : offsetOf source .start = 0 :=
  offsetOf_positionAt (Nat.zero_le _)

theorem positionAt_offsetOf {source : Text} {p : Position} (h : HasPosition source p) :
    positionAt source (offsetOf source p) = p := by
  obtain ⟨k, hk, rfl⟩ := h
  rw [offsetOf_positionAt hk]

theorem MetOrPast.offsetOf_le_length {source : Text} {bound : Position}
    (h : MetOrPast source bound) : offsetOf source bound ≤ source.length := by
  obtain ⟨k, hk, rfl⟩ | hpast := h
  · rwa [offsetOf_positionAt hk]
  · exact (offsetOf_of_end_lt hpast).le

/-- Bounds in order stand for offsets in order. -/
theorem MetOrPast.offsetOf_le {source : Text} {here bound : Position}
    (hhere : MetOrPast source here) (hbound : MetOrPast source bound) (hle : here ≤ bound) :
    offsetOf source here ≤ offsetOf source bound := by
  rcases hbound with hmet | hpast
  · rcases hhere with ⟨j, hj, rfl⟩ | hpast
    · obtain ⟨k, hk, rfl⟩ := hmet
      rw [offsetOf_positionAt hj, offsetOf_positionAt hk]
      exact (positionAt_le_iff hj hk).1 hle
    · exact absurd (hle.trans hmet.le_end) hpast.not_ge
  · rw [offsetOf_of_end_lt hpast]
    exact hhere.offsetOf_le_length

/-- A cut from one bound to the next takes what stands between the offsets they stand for: the
cursor is the true position of the text that remains, or nothing remains. -/
theorem MetOrPast.cut_eq {source : Text} {here bound : Position} (hhere : MetOrPast source here)
    (hbound : MetOrPast source bound) (hle : here ≤ bound) :
    (cut here bound (source.drop (offsetOf source here))).taken =
        source.extract (offsetOf source here) (offsetOf source bound) ∧
      (cut here bound (source.drop (offsetOf source here))).rest =
        source.drop (offsetOf source bound) := by
  have hoffsets := hhere.offsetOf_le hbound hle
  rcases hhere with ⟨j, hj, rfl⟩ | hpast
  · rw [offsetOf_positionAt hj] at hoffsets ⊢
    rcases hbound with ⟨k, hk, rfl⟩ | hpast
    · rw [offsetOf_positionAt hk] at hoffsets ⊢
      rw [cut_positionAt source hoffsets]
      exact ⟨rfl, rfl⟩
    · have hend : (positionAt source j).after (source.drop j) = Position.start.after source := by
        rw [positionAt, ← Position.after_append, List.take_append_drop]
      obtain ⟨htaken, hrest⟩ := cut_whole (hend.trans_le hpast.le)
      have hall := extract_append_drop source hj
      rw [List.drop_length, List.append_nil] at hall
      rw [offsetOf_of_end_lt hpast, htaken, hrest, List.drop_length]
      exact ⟨hall.symm, rfl⟩
  · -- behind the end the cursor is of no use, since a cut finds nothing to take
    have hlate : Position.start.after source < bound := hpast.trans_le hle
    rw [offsetOf_of_end_lt hpast, offsetOf_of_end_lt hlate, List.drop_length]
    simp [cut, List.extract_eq_take_drop]

/-- One step of a splice, whichever bounds of the edit are after the end. -/
theorem spliceFrom_cons_of_metOrPast {source : Text} {here : Position} {e : Edit}
    {edits : List Edit} (hhere : MetOrPast source here) (hlower : MetOrPast source e.span.lower)
    (hupper : MetOrPast source e.span.upper) (hle : here ≤ e.span.lower)
    (hproper : e.span.lower ≤ e.span.upper) :
    spliceFrom here (source.drop (offsetOf source here)) (e :: edits) =
      source.extract (offsetOf source here) (offsetOf source e.span.lower) ++
        e.render (source.extract (offsetOf source e.span.lower) (offsetOf source e.span.upper)) ++
        spliceFrom e.span.upper (source.drop (offsetOf source e.span.upper)) edits := by
  obtain ⟨hlead, hleft⟩ := hhere.cut_eq hlower hle
  obtain ⟨hnode, hrest⟩ := hlower.cut_eq hupper hproper
  rw [spliceFrom]
  cases hplace : e.placement with
  | before => simp only [Edit.divide, hplace, hlead, hleft, hnode, hrest]
  | replace => simp only [Edit.divide, hplace, hlead, hleft, hnode, hrest]
  | after =>
    obtain ⟨hwhole, hrest⟩ := hhere.cut_eq hupper (hle.trans hproper)
    have hjoin := extract_append_extract source (hhere.offsetOf_le hlower hle)
      (hlower.offsetOf_le hupper hproper)
    simp only [Edit.divide, Edit.render, hplace, hwhole, hrest, ← hjoin, List.nil_append,
      List.append_assoc]

/-- A whole run. Each upper bound is the next cursor, so what is known of the bounds is known of the
cursor all along. -/
theorem spliceFrom_of_metOrPast {source : Text} {here : Position} {edits : List Edit}
    (hhere : MetOrPast source here) (horder : InOrder here edits)
    (hbounds : ∀ e ∈ edits, MetOrPast source e.span.lower ∧ MetOrPast source e.span.upper) :
    spliceFrom here (source.drop (offsetOf source here)) edits =
      applyFrom source (offsetOf source here) (edits.map (Edit.toRange source)) := by
  induction edits generalizing here with
  | nil => rfl
  | cons e edits ih =>
    obtain ⟨hle, hproper, hrest⟩ := horder
    obtain ⟨hlower, hupper⟩ := hbounds e List.mem_cons_self
    have hrun := ih hupper hrest fun e' he' => hbounds e' (List.mem_cons_of_mem e he')
    rw [spliceFrom_cons_of_metOrPast hhere hlower hupper hle hproper, hrun]
    rfl

theorem ascending_toRange {source : Text} {here : Position} {edits : List Edit}
    (hhere : MetOrPast source here) (horder : InOrder here edits)
    (hbounds : ∀ e ∈ edits, MetOrPast source e.span.lower ∧ MetOrPast source e.span.upper) :
    Ascending (offsetOf source here) source.length (edits.map (Edit.toRange source)) := by
  induction edits generalizing here with
  | nil => exact hhere.offsetOf_le_length
  | cons e edits ih =>
    obtain ⟨hle, hproper, hrest⟩ := horder
    obtain ⟨hlower, hupper⟩ := hbounds e List.mem_cons_self
    exact ⟨hhere.offsetOf_le hlower hle, hlower.offsetOf_le hupper hproper,
      ih hupper hrest fun e' he' => hbounds e' (List.mem_cons_of_mem e he')⟩

theorem inOrder_of_isChain {here : Position} {edits : List Edit}
    (hhere : ∀ e ∈ edits.head?, here ≤ e.span.lower)
    (hproper : ∀ e ∈ edits, e.span.lower ≤ e.span.upper)
    (hchain : edits.IsChain fun a b => a.span.upper ≤ b.span.lower) : InOrder here edits := by
  induction edits generalizing here with
  | nil => trivial
  | cons d edits ih =>
    refine ⟨hhere d rfl, hproper d List.mem_cons_self, ?_⟩
    apply ih _ (fun e he => hproper e (List.mem_cons_of_mem d he)) hchain.tail
    exact fun next hnext => hchain.rel_head? hnext

/-- Ranges at the end of the source hold nothing, so their texts are all that they leave. -/
theorem applyFrom_length {α : Type} {source : List α} {ranges : List (RangeEdit α)}
    (h : Ascending source.length source.length ranges) :
    applyFrom source source.length ranges = ranges.flatMap RangeEdit.text := by
  induction ranges with
  | nil => exact List.drop_length
  | cons r ranges ih =>
    obtain ⟨hlower, hrange, hrest⟩ := h
    have hupper : r.upper = source.length := le_antisymm hrest.le (hlower.trans hrange)
    have hsame : r.lower = source.length := le_antisymm (hrange.trans hupper.le) hlower
    have hnone : source.extract source.length source.length = [] := by
      rw [List.extract_eq_take_drop, Nat.sub_self, List.take_zero]
    have htext : r.rewrite [] = r.text := by
      unfold RangeEdit.rewrite
      cases r.placement <;> simp
    rw [hupper] at hrest
    rw [applyFrom, hupper, hsame, hnone, htext, ih hrest, List.nil_append, List.flatMap_cons]

/-- Behind a range that reaches the end of the source, only texts are added. -/
theorem applyFrom_append_of_upper_eq {α : Type} {source : List α} {lo : Nat}
    {before later : List (RangeEdit α)} {r : RangeEdit α}
    (h : Ascending lo source.length (before ++ r :: later)) (hupper : r.upper = source.length) :
    applyFrom source lo (before ++ r :: later) =
      applyFrom source lo (before ++ [r]) ++ later.flatMap RangeEdit.text := by
  induction before generalizing lo with
  | nil =>
    have hlater := h.2.2
    rw [hupper] at hlater
    rw [List.nil_append, List.nil_append, applyFrom, applyFrom, applyFrom, hupper,
      applyFrom_length hlater, List.drop_length, List.append_nil]
  | cons d before ih =>
    rw [List.cons_append, List.cons_append, applyFrom, applyFrom, ih h.2.2]
    simp only [List.append_assoc]

theorem Edit.clamped_eq_self {source : Text} {e : Edit} (hlower : HasPosition source e.span.lower)
    (hupper : HasPosition source e.span.upper) : e.clamped source = e := by
  rw [clamped, RangeEdit.toEdit, toRange, positionAt_offsetOf hlower, positionAt_offsetOf hupper]

theorem splice_of_metOrPast {source : Text} {edits : List Edit} (horder : InOrder .start edits)
    (hbounds : ∀ e ∈ edits, MetOrPast source e.span.lower ∧ MetOrPast source e.span.upper) :
    Ascending 0 source.length (edits.map (Edit.toRange source)) ∧
      splice edits source = applyFrom source 0 (edits.map (Edit.toRange source)) := by
  have hstart : MetOrPast source .start := Or.inl ⟨0, Nat.zero_le _, rfl⟩
  have hascending := ascending_toRange hstart horder hbounds
  have hsplice := spliceFrom_of_metOrPast hstart horder hbounds
  rw [offsetOf_start] at hascending hsplice
  exact ⟨hascending, hsplice⟩

/-- Edits that are all valid but the last, which reaches past the end, are valid once the last one
is moved back. -/
theorem append_clamped_eq {source : Text} {before : List Edit}
    (hbefore : ∀ e ∈ before, HasPosition source e.span.lower ∧ HasPosition source e.span.upper)
    (d : Edit) :
    before ++ [d.clamped source] =
      ((before ++ [d]).map (Edit.toRange source)).map (RangeEdit.toEdit source) := by
  have hsame : before.map (Edit.clamped source) = before := by
    have hself : ∀ e ∈ before, e.clamped source = id e := fun e he =>
      Edit.clamped_eq_self (hbefore e he).1 (hbefore e he).2
    rw [List.map_congr_left hself, List.map_id]
  rw [List.map_map, List.map_append]
  exact congrArg (· ++ [d.clamped source]) hsame.symm

/-- Splicing edits that lie one after the other, each of their bounds a position of the text or
after its end, is editing by offsets with the length of the text for every bound after the end. So
up to the first of these the edits are made as if all bounds were valid, and the texts of all later
edits follow at the end, in order. -/
theorem splice_clamps_at_end (source : Text) (edits : List Edit)
    (hproper : ∀ e ∈ edits, e.span.lower ≤ e.span.upper)
    (hchain : edits.IsChain fun a b => a.span.upper ≤ b.span.lower)
    (hbounds : ∀ e ∈ edits, MetOrPast source e.span.lower ∧ MetOrPast source e.span.upper) :
    Ascending 0 source.length (edits.map (Edit.toRange source)) ∧
    splice edits source = applyFrom source 0 (edits.map (Edit.toRange source)) ∧
    ∀ before d later, edits = before ++ d :: later →
      (∀ e ∈ before, HasPosition source e.span.lower ∧ HasPosition source e.span.upper) →
      Position.start.after source < d.span.upper →
        check .strict source (before ++ [d.clamped source]) = .ok () ∧
        splice edits source =
          splice (before ++ [d.clamped source]) source ++ later.flatMap Edit.text := by
  have horder : InOrder .start edits :=
    inOrder_of_isChain (fun _ _ => Position.start_le _) hproper hchain
  obtain ⟨hascending, hsplice⟩ := splice_of_metOrPast horder hbounds
  refine ⟨hascending, hsplice, ?_⟩
  rintro before d later rfl hbefore hpast
  have hupper : (d.toRange source).upper = source.length := offsetOf_of_end_lt hpast
  have hranges : (before ++ d :: later).map (Edit.toRange source) =
      before.map (Edit.toRange source) ++ d.toRange source :: later.map (Edit.toRange source) := by
    rw [List.map_append, List.map_cons]
  have hupto : Ascending 0 source.length ((before ++ [d]).map (Edit.toRange source)) := by
    rw [List.append_cons, List.map_append] at hascending
    exact hascending.of_append
  have htexts : (later.map (Edit.toRange source)).flatMap RangeEdit.text =
      later.flatMap Edit.text := List.flatMap_map _ _ _
  rw [append_clamped_eq hbefore]
  refine ⟨hupto.check_eq_ok _, ?_⟩
  rw [hranges] at hascending hsplice
  rw [hsplice, splice_toEdit source hupto, applyFrom_append_of_upper_eq hascending hupper, htexts,
    List.map_append, List.map_singleton]

/-- An edit of the first line, one that reaches past the last column and one on lines that the text
does not have. -/
def overlongEdits : List Edit :=
  [⟨.before, ['<'], .ofZeroBased 0 1, .ofZeroBased 0 2⟩,
    ⟨.replace, ['X'], .ofZeroBased 1 1, .ofZeroBased 1 9⟩,
    ⟨.after, ['!'], .ofZeroBased 7 0, .ofZeroBased 8 3⟩]

theorem splice_overlongEdits :
    ∃ source out : Text, source = ['a', 'b', '\n', 'c', 'd'] ∧
      out = ['a', '<', 'b', '\n', 'c', 'X', '!'] ∧
      (∀ e ∈ overlongEdits, e.span.lower ≤ e.span.upper) ∧
      overlongEdits.IsChain (fun a b => a.span.upper ≤ b.span.lower) ∧
      (∀ e ∈ overlongEdits, MetOrPast source e.span.lower ∧ MetOrPast source e.span.upper) ∧
      applyFrom source 0 (overlongEdits.map (Edit.toRange source)) = out ∧
      splice overlongEdits source = out ∧
      splice overlongEdits source = splice (overlongEdits.take 1 ++
        [⟨.replace, ['X'], .ofZeroBased 1 1, .ofZeroBased 1 2⟩]) source ++ ['!'] := by
  have hproper : ∀ e ∈ overlongEdits, e.span.lower ≤ e.span.upper := by decide
  have hchain : overlongEdits.IsChain fun a b => a.span.upper ≤ b.span.lower := by decide
  have hbounds : ∀ e ∈ overlongEdits, MetOrPast ['a', 'b', '\n', 'c', 'd'] e.span.lower ∧
      MetOrPast ['a', 'b', '\n', 'c', 'd'] e.span.upper := by decide
  obtain ⟨-, hsplice, hlast⟩ := splice_clamps_at_end _ _ hproper hchain hbounds
  obtain ⟨-, hclamped⟩ := hlast (overlongEdits.take 1) _ _ rfl (by decide) (by decide)
  have hout : splice overlongEdits ['a', 'b', '\n', 'c', 'd'] =
      ['a', '<', 'b', '\n', 'c', 'X', '!'] := by decide
  exact ⟨_, _, rfl, rfl, hproper, hchain, hbounds, hsplice.symm.trans hout, hout, hclamped⟩

end Retouch
