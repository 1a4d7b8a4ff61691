import Retouch.Proofs.Bounds
import Retouch.Proofs.Visit
import Retouch.Reprint

/-!
# What a check and a reprint answer

One statement for each function says when it succeeds and with what. Later modules cite these and
do not open the functions.
-/

namespace Retouch

theorem check_eq_ok_iff (settings : Settings) (text : Text) (edits : List Edit) :
    check settings text edits = .ok () ↔
      (settings.rejectOverlapping = true → firstOverlap edits = none) ∧
        (settings.rejectOutOfBounds = true → firstOutOfBounds text edits = none) := by
  have hfault : check settings text edits = .ok () ↔ firstFault settings text edits = none := by
    unfold check
    cases firstFault settings text edits <;> simp
  rw [hfault, firstFault, Option.or_eq_none_iff]
  simp only [ite_eq_right_iff]

theorem check_eq_error_iff {settings : Settings} {text : Text} {edits : List Edit} {fault : Fault} :
    check settings text edits = .error fault ↔ firstFault settings text edits = some fault := by
  unfold check
  cases firstFault settings text edits <;> simp

theorem firstOverlap_singleton (e : Edit) : firstOverlap [e] = none := rfl

/-- An edit alone has no neighbour to overlap, so its bounds decide. -/
theorem check_singleton_eq_ok (settings : Settings) {text : Text} {e : Edit}
    (hlower : HasPosition text e.span.lower) (hupper : HasPosition text e.span.upper) :
    check settings text [e] = .ok () := by
  rw [check_eq_ok_iff, firstOutOfBounds_eq_none_iff]
  refine ⟨fun _ => firstOverlap_singleton e, fun _ d hd => ?_⟩
  obtain rfl := List.mem_singleton.1 hd
  exact ⟨hlower, hupper⟩

theorem firstOverlap_congr_spans {edits others : List Edit}
    (h : edits.map Edit.span = others.map Edit.span) :
    firstOverlap edits = firstOverlap others := by
  induction edits generalizing others with
  | nil => rw [List.map_eq_nil_iff.1 (h.symm.trans List.map_nil)]
  | cons e edits ih =>
    obtain ⟨o, others, rfl, ho, hs⟩ := List.map_eq_cons_iff.1 h.symm
    cases edits with
    | nil => rw [List.map_eq_nil_iff.1 hs, firstOverlap_singleton, firstOverlap_singleton]
    | cons e' edits =>
      have hih := ih hs.symm
      obtain ⟨o', others, rfl, ho', -⟩ := List.map_eq_cons_iff.1 hs
      rw [firstOverlap, firstOverlap, ho, ho', hih]

theorem bounds_eq_flatMap_spans (edits : List Edit) :
    bounds edits = (edits.map Edit.span).flatMap fun s => [s.lower, s.upper] := by
  rw [List.flatMap_map]
  rfl

/-- The checks read nothing of the edits but their spans. -/
theorem check_congr_spans (settings : Settings) (text : Text) {edits others : List Edit}
    (h : edits.map Edit.span = others.map Edit.span) :
    check settings text edits = check settings text others := by
  have hbounds : bounds edits = bounds others := by
    rw [bounds_eq_flatMap_spans, bounds_eq_flatMap_spans, h]
  rw [check, check, firstFault, firstFault, firstOutOfBounds, firstOutOfBounds,
    firstOverlap_congr_spans h, hbounds]

variable {α σ ε : Type}

theorem applyEdits_eq_ok_iff {settings : Settings} {source : Text} {edits : List Edit}
    {out : Text} :
    (applyEdits settings source edits).1 = .ok out ↔
      check settings source edits = .ok () ∧ out = splice edits source := by
  unfold applyEdits
  cases hcheck : check settings source edits with
  | error fault => simp
  | ok _ => simp [eq_comm]

theorem mapError_eq_ok_iff {δ β : Type} {f : ε → δ} {x : Except ε β} {b : β} :
    x.mapError f = .ok b ↔ x = .ok b := by
  cases x <;> simp [Except.mapError]

theorem outcome_reprint? (settings : Settings) (v : Visitor α σ ε) (tree : Tree α)
    {source : Text} (state : σ) (hsource : source ≠ []) :
    (settings.reprint? v tree source state).outcome =
      match (walk v tree state).result with
      | .error error => .error (.query error)
      | .ok found => (applyEdits settings source (Edit.sort found)).1.mapError .rejected := by
  have hempty : source.isEmpty = false := by simpa using hsource
  simp only [Settings.reprint?, hempty, Bool.false_eq_true, if_false]
  cases (walk v tree state).result <;> rfl

theorem outcome_reprint?_eq_ok_iff {settings : Settings} {v : Visitor α σ ε} {tree : Tree α}
    {source : Text} {state : σ} {out : Text} (hsource : source ≠ []) :
    (settings.reprint? v tree source state).outcome = .ok out ↔
      ∃ found, (walk v tree state).result = .ok found ∧
        check settings source (Edit.sort found) = .ok () ∧
          out = splice (Edit.sort found) source := by
  rw [outcome_reprint? settings v tree state hsource]
  cases (walk v tree state).result with
  | error error => simp
  | ok found => simp [mapError_eq_ok_iff, applyEdits_eq_ok_iff]

theorem outcome_reprint (settings : Settings) (v : Visitor α σ Empty) (tree : Tree α)
    {source : Text} (state : σ) (hsource : source ≠ []) :
    (settings.reprint v tree source state).outcome =
      (applyEdits settings source (Edit.sort (walk v tree state).edits)).1 := by
  have hempty : source.isEmpty = false := by simpa using hsource
  simp only [Settings.reprint, hempty, Bool.false_eq_true, if_false]

theorem outcome_unchecked (v : Visitor α σ Empty) (tree : Tree α) {source : Text} (state : σ)
    (hsource : source ≠ []) :
    (reprint v tree source state).outcome =
      splice (Edit.sort (walk v tree state).edits) source := by
  have hempty : source.isEmpty = false := by simpa using hsource
  simp only [reprint, hempty, Bool.false_eq_true, if_false]

end Retouch
