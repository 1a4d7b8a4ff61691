import Mathlib.Data.Set.Basic
import Mathlib.Order.Monotone.Defs
import Retouch.Proofs.Offset
import Retouch.Splice

/-!
# Editing by offsets

Range edits say where they apply by two offsets into a list, of characters or of bytes. Applying
them copies what stands between the ranges. Splicing edits whose bounds are positions of ascending
offsets of a text is applying the range edits with these offsets.
-/

namespace Retouch

structure RangeEdit (α : Type) where
  lower : Nat
  upper : Nat
  placement : Placement
  text : List α

variable {α : Type}

/-- What a range edit makes of the elements in its range. -/
def RangeEdit.rewrite (e : RangeEdit α) (node : List α) : List α :=
  match e.placement with
  | .replace => e.text
  | .before => e.text ++ node
  | .after => node ++ e.text

/-- Ranges that lie one after the other between `lo` and `hi`. -/
def Ascending (lo hi : Nat) : List (RangeEdit α) → Prop
  | [] => lo ≤ hi
  | e :: edits => lo ≤ e.lower ∧ e.lower ≤ e.upper ∧ Ascending e.upper hi edits

/-- The elements of `source` from offset `done` on, with range edits applied. -/
def applyFrom (source : List α) (done : Nat) : List (RangeEdit α) → List α
  | [] => source.drop done
  | e :: edits =>
    source.extract done e.lower ++ e.rewrite (source.extract e.lower e.upper) ++
      applyFrom source e.upper edits

/-- The offset is in none of the ranges. -/
def Outside (edits : List (RangeEdit α)) (k : Nat) : Prop :=
  ∀ e ∈ edits, k < e.lower ∨ e.upper ≤ k

theorem Ascending.le {lo hi : Nat} {edits : List (RangeEdit α)} (h : Ascending lo hi edits) :
    lo ≤ hi := by
  induction edits generalizing lo with
  | nil => exact h
  | cons e edits ih => exact h.1.trans (h.2.1.trans (ih h.2.2))

theorem Ascending.mono {lo hi lo' hi' : Nat} {edits : List (RangeEdit α)}
    (h : Ascending lo hi edits) (hlo : lo' ≤ lo) (hhi : hi ≤ hi') : Ascending lo' hi' edits := by
  induction edits generalizing lo lo' with
  | nil => exact hlo.trans (h.trans hhi)
  | cons e edits ih => exact ⟨hlo.trans h.1, h.2.1, ih h.2.2 le_rfl⟩

theorem Ascending.append {lo mid hi : Nat} {edits others : List (RangeEdit α)}
    (h : Ascending lo mid edits) (hothers : Ascending mid hi others) :
    Ascending lo hi (edits ++ others) := by
  induction edits generalizing lo with
  | nil => exact hothers.mono h le_rfl
  | cons e edits ih => exact ⟨h.1, h.2.1, ih h.2.2⟩

theorem Ascending.of_append {lo hi : Nat} {ranges others : List (RangeEdit α)}
    (h : Ascending lo hi (ranges ++ others)) : Ascending lo hi ranges := by
  induction ranges generalizing lo with
  | nil => exact h.le
  | cons r ranges ih => exact ⟨h.1, h.2.1, ih h.2.2⟩

theorem extract_append_extract (source : List α) {a b c : Nat} (hab : a ≤ b) (hbc : b ≤ c) :
    source.extract a b ++ source.extract b c = source.extract a c := by
  obtain ⟨m, rfl⟩ := Nat.exists_eq_add_of_le hab
  obtain ⟨n, rfl⟩ := Nat.exists_eq_add_of_le hbc
  simp only [List.extract_eq_take_drop, Nat.add_sub_cancel_left]
  rw [show a + m + n - a = m + n by omega, List.take_add, List.drop_drop]

theorem extract_append_drop (source : List α) {a b : Nat} (hab : a ≤ b) :
    source.extract a b ++ source.drop b = source.drop a := by
  obtain ⟨m, rfl⟩ := Nat.exists_eq_add_of_le hab
  rw [List.extract_eq_take_drop, Nat.add_sub_cancel_left, ← List.drop_drop, List.take_append_drop]

theorem length_extract (source : List α) {a b : Nat} (hb : b ≤ source.length) :
    (source.extract a b).length = b - a := by
  rw [List.extract_eq_take_drop, List.length_take, List.length_drop]
  omega

/-- The number of elements that stand before the rest after one edit. -/
def RangeEdit.width (source : List α) (lo : Nat) (e : RangeEdit α) : Nat :=
  (source.extract lo e.lower ++ e.rewrite (source.extract e.lower e.upper)).length

theorem RangeEdit.le_width {source : List α} (lo : Nat) {e : RangeEdit α}
    (hlower : e.lower ≤ source.length) : e.lower - lo ≤ e.width source lo := by
  rw [width, List.length_append, length_extract source hlower]
  exact Nat.le_add_right _ _

/-- Where the element at an offset outside the ranges stands in the output. -/
def placeFrom (source : List α) (lo : Nat) : List (RangeEdit α) → Nat → Nat
  | [], k => k - lo
  | e :: edits, k =>
    if k < e.lower then k - lo else e.width source lo + placeFrom source e.upper edits k

theorem placeFrom_gap (source : List α) (lo : Nat) {e : RangeEdit α}
    (edits : List (RangeEdit α)) {k : Nat} (hk : k < e.lower) :
    placeFrom source lo (e :: edits) k = k - lo := by
  rw [placeFrom, if_pos hk]

theorem placeFrom_rest (source : List α) (lo : Nat) {e : RangeEdit α}
    (edits : List (RangeEdit α)) {k : Nat} (hrange : e.lower ≤ e.upper) (hk : e.upper ≤ k) :
    placeFrom source lo (e :: edits) k =
      e.width source lo + placeFrom source e.upper edits k := by
  rw [placeFrom, if_neg (hrange.trans hk).not_gt]

theorem getElem?_placeFrom {source : List α} {lo k : Nat} {edits : List (RangeEdit α)}
    (h : Ascending lo source.length edits) (hk : lo ≤ k) (hout : Outside edits k) :
    (applyFrom source lo edits)[placeFrom source lo edits k]? = source[k]? := by
  induction edits generalizing lo with
  | nil => rw [applyFrom, placeFrom, List.getElem?_drop, Nat.add_sub_cancel' hk]
  | cons e edits ih =>
    obtain ⟨-, hrange, hrest⟩ := h
    obtain ⟨hgap | hpast, hout⟩ := List.forall_mem_cons.1 hout
    · have hlength := length_extract source (a := lo) (hrange.trans hrest.le)
      rw [placeFrom_gap source lo edits hgap, applyFrom, List.append_assoc,
        List.getElem?_append_left (by omega), List.extract_eq_take_drop,
        List.getElem?_take_of_lt (by omega), List.getElem?_drop, Nat.add_sub_cancel' hk]
    · rw [placeFrom_rest source lo edits hrange hpast, applyFrom, RangeEdit.width,
        List.getElem?_append_right (Nat.le_add_right _ _), Nat.add_sub_cancel_left]
      exact ih hrest hpast hout

theorem placeFrom_lt {source : List α} {lo j k : Nat} {edits : List (RangeEdit α)}
    (h : Ascending lo source.length edits) (hj : lo ≤ j) (hjk : j < k)
    (hjout : Outside edits j) (hkout : Outside edits k) :
    placeFrom source lo edits j < placeFrom source lo edits k := by
  induction edits generalizing lo with
  | nil =>
    rw [placeFrom, placeFrom]
    omega
  | cons e edits ih =>
    obtain ⟨-, hrange, hrest⟩ := h
    have hwidth := RangeEdit.le_width lo (hrange.trans hrest.le)
    obtain ⟨hjgap | hjpast, hjout⟩ := List.forall_mem_cons.1 hjout
    · rw [placeFrom_gap source lo edits hjgap]
      obtain ⟨hkgap | hkpast, -⟩ := List.forall_mem_cons.1 hkout
      · rw [placeFrom_gap source lo edits hkgap]
        omega
      · rw [placeFrom_rest source lo edits hrange hkpast]
        omega
    · obtain ⟨-, hkout⟩ := List.forall_mem_cons.1 hkout
      rw [placeFrom_rest source lo edits hrange hjpast,
        placeFrom_rest source lo edits hrange (hjpast.trans hjk.le)]
      exact Nat.add_lt_add_left (ih hrest hjpast hjout hkout) _

/-- Every element of `source` outside the ranges stands in `out`, and these elements keep their
order. -/
def KeepsOutside (edits : List (RangeEdit α)) (source out : List α) : Prop :=
  ∃ place : Nat → Nat,
    StrictMonoOn place {k | k < source.length ∧ Outside edits k} ∧
    ∀ k, k < source.length → Outside edits k → out[place k]? = source[k]?

theorem keepsOutside_applyFrom {source : List α} {edits : List (RangeEdit α)}
    (h : Ascending 0 source.length edits) :
    KeepsOutside edits source (applyFrom source 0 edits) := by
  refine ⟨placeFrom source 0 edits, ?_, ?_⟩
  · rintro j ⟨-, hj⟩ k ⟨-, hk⟩ hjk
    exact placeFrom_lt h (Nat.zero_le j) hjk hj hk
  · intro k _ hk
    exact getElem?_placeFrom h (Nat.zero_le k) hk

/-- The edit whose bounds are the positions of the offsets in `source`. -/
def RangeEdit.toEdit (source : Text) (e : RangeEdit Char) : Edit :=
  ⟨e.placement, e.text, positionAt source e.lower, positionAt source e.upper⟩

/-- One edit whose bounds are met in the text: what stands before it is copied, its node is
rewritten, and the pass goes on at its upper bound. -/
theorem spliceFrom_cons {here : Position} {e : Edit} {gap node rest : Text} {edits : List Edit}
    (hlower : e.span.lower = here.after gap) (hupper : e.span.upper = e.span.lower.after node) :
    spliceFrom here (gap ++ node ++ rest) (e :: edits) =
      gap ++ e.render node ++ spliceFrom e.span.upper rest edits := by
  have hwhole : e.span.upper = here.after (gap ++ node) := by
    rw [hupper, hlower, Position.after_append]
  have hlead : cut here e.span.lower (gap ++ node ++ rest) =
      ⟨gap, node ++ rest, e.span.lower⟩ := by
    rw [hlower, List.append_assoc, cut_after]
  have hnode : cut e.span.lower e.span.upper (node ++ rest) = ⟨node, rest, e.span.upper⟩ := by
    rw [hupper, cut_after]
  rw [spliceFrom]
  cases hplace : e.placement with
  | before => simp only [Edit.divide, hplace, hlead, hnode]
  | replace => simp only [Edit.divide, hplace, hlead, hnode]
  | after =>
    have hcut : cut here e.span.upper (gap ++ node ++ rest) =
        ⟨gap ++ node, rest, e.span.upper⟩ := by
      rw [hwhole, cut_after]
    simp only [Edit.divide, Edit.render, hplace, hcut]
    simp only [List.nil_append, List.append_assoc]

theorem positionAt_after_extract (source : Text) {a b : Nat} (hab : a ≤ b) :
    (positionAt source a).after (source.extract a b) = positionAt source b := by
  obtain ⟨m, rfl⟩ := Nat.exists_eq_add_of_le hab
  rw [List.extract_eq_take_drop, Nat.add_sub_cancel_left, positionAt_add]

/-- Between the positions of two offsets a cut takes what stands between the offsets. -/
theorem cut_positionAt (source : Text) {j k : Nat} (hjk : j ≤ k) :
    cut (positionAt source j) (positionAt source k) (source.drop j) =
      ⟨source.extract j k, source.drop k, positionAt source k⟩ := by
  rw [← positionAt_after_extract source hjk, ← extract_append_drop source hjk, cut_after]

/-- The cursor of a splice is the true position of the text that remains, all along a run over
edits with ascending offsets. -/
theorem spliceFrom_toEdit (source : Text) {lo : Nat} {edits : List (RangeEdit Char)}
    (h : Ascending lo source.length edits) :
    spliceFrom (positionAt source lo) (source.drop lo) (edits.map (RangeEdit.toEdit source)) =
      applyFrom source lo edits := by
  induction edits generalizing lo with
  | nil => rfl
  | cons e edits ih =>
    obtain ⟨hlo, hrange, hrest⟩ := h
    have htext : source.drop lo =
        source.extract lo e.lower ++ source.extract e.lower e.upper ++ source.drop e.upper := by
      rw [extract_append_extract source hlo hrange, extract_append_drop source (hlo.trans hrange)]
    have hlower : (e.toEdit source).span.lower =
        (positionAt source lo).after (source.extract lo e.lower) :=
      (positionAt_after_extract source hlo).symm
    have hupper : (e.toEdit source).span.upper =
        (e.toEdit source).span.lower.after (source.extract e.lower e.upper) :=
      (positionAt_after_extract source hrange).symm
    rw [List.map_cons, htext, spliceFrom_cons hlower hupper, applyFrom]
    congr 1
    exact ih hrest

theorem splice_toEdit (source : Text) {edits : List (RangeEdit Char)}
    (h : Ascending 0 source.length edits) :
    splice (edits.map (RangeEdit.toEdit source)) source = applyFrom source 0 edits :=
  spliceFrom_toEdit source h

end Retouch
