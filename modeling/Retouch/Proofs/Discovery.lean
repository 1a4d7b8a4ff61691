import Retouch.Proofs.Outcome
import Retouch.Proofs.Outermost
import Retouch.Proofs.Sort

/-!
# The order of discovery does not matter

Two walks that find the same edits, with those that share a span in the same order, reprint every
text alike. Without the condition on shared spans the checks still answer alike.
-/

namespace Retouch

open Edit

variable {α β σ τ ε : Type}

theorem outcome_reprint?_congr {v : Visitor α σ ε} {w : Visitor β τ ε} {tree : Tree α}
    {other : Tree β} {state : σ} {state' : τ} {found found' : List Edit}
    (hv : (walk v tree state).result = .ok found) (hw : (walk w other state').result = .ok found')
    (hsort : Edit.sort found = Edit.sort found') (settings : Settings) (source : Text) :
    (settings.reprint? v tree source state).outcome =
      (settings.reprint? w other source state').outcome := by
  by_cases hsource : source = []
  · subst hsource
    rfl
  · rw [outcome_reprint? settings v tree state hsource,
      outcome_reprint? settings w other state' hsource, hv, hw]
    dsimp only
    rw [hsort]

theorem outcome_reprint_congr {v : Visitor α σ Empty} {w : Visitor β τ Empty} {tree : Tree α}
    {other : Tree β} {state : σ} {state' : τ}
    (hsort : Edit.sort (walk v tree state).edits = Edit.sort (walk w other state').edits)
    (source : Text) :
    (∀ settings : Settings, (settings.reprint v tree source state).outcome =
      (settings.reprint w other source state').outcome) ∧
      (reprint v tree source state).outcome = (reprint w other source state').outcome := by
  by_cases hsource : source = []
  · subst hsource
    exact ⟨fun _ => rfl, rfl⟩
  · refine ⟨fun settings => ?_, ?_⟩
    · rw [outcome_reprint settings v tree state hsource,
        outcome_reprint settings w other state' hsource, hsort]
    · rw [outcome_unchecked v tree state hsource, outcome_unchecked w other state' hsource, hsort]

/-- For permuted edits the checks of the ordered edits answer alike. If the edits that share a
span also keep their order, which they do when no two share one, the ordered edits are the same,
so they splice into the same text, and walks that find them have the same outcome whatever the
entry point. -/
theorem reprint_ignores_discovery_order {edits others : List Edit} (hperm : edits.Perm others) :
    (∀ settings source, check settings source (Edit.sort edits) =
      check settings source (Edit.sort others)) ∧
    ((edits.map Edit.span).Nodup → ∀ s, withSpan s edits = withSpan s others) ∧
    ((∀ s, withSpan s edits = withSpan s others) →
      Edit.sort edits = Edit.sort others ∧
      (∀ source, splice (Edit.sort edits) source = splice (Edit.sort others) source) ∧
      (∀ {α β σ τ ε : Type} (v : Visitor α σ ε) (w : Visitor β τ ε) (tree : Tree α)
        (other : Tree β) (state : σ) (state' : τ), (walk v tree state).result = .ok edits →
        (walk w other state').result = .ok others → ∀ (settings : Settings) (source : Text),
          (settings.reprint? v tree source state).outcome =
            (settings.reprint? w other source state').outcome) ∧
      ∀ {α β σ τ : Type} (v : Visitor α σ Empty) (w : Visitor β τ Empty) (tree : Tree α)
        (other : Tree β) (state : σ) (state' : τ), (walk v tree state).result = .ok edits →
        (walk w other state').result = .ok others → ∀ source,
          (∀ settings : Settings, (settings.reprint v tree source state).outcome =
            (settings.reprint w other source state').outcome) ∧
          (reprint v tree source state).outcome = (reprint w other source state').outcome) := by
  refine ⟨fun settings source => ?_, withSpan_eq_of_nodup hperm, fun htied => ?_⟩
  · exact check_congr_spans settings source (map_span_sort_eq_of_perm hperm)
  · have hsort : Edit.sort edits = Edit.sort others := sort_eq_of_withSpan_eq htied
    refine ⟨hsort, fun source => by rw [hsort], ?_, ?_⟩
    · intro α β σ τ ε v w tree other state state' hv hw
      exact outcome_reprint?_congr hv hw hsort
    · intro α β σ τ v w tree other state state' hv hw
      apply outcome_reprint_congr
      rw [(Walked.result_eq_ok_iff.1 hv).2, (Walked.result_eq_ok_iff.1 hw).2, hsort]

def insertion (text : Text) : Edit := ⟨.before, text, .point (.ofZeroBased 0 1)⟩

def removal : Edit := ⟨.replace, [], ⟨.ofZeroBased 0 0, .ofZeroBased 0 1⟩⟩

/-- A tree that reports the edits in this order. -/
def leavesOf (edits : List Edit) : Tree (Option Edit) :=
  .node none (edits.map fun e => .node (some e) [])

theorem reprint_of_insertions_and_removal :
    ∃ edits others : List Edit,
      edits = [insertion ['('], removal, insertion [')']] ∧
      others = [insertion ['('], insertion [')'], removal] ∧
      edits.Perm others ∧ (∀ s, withSpan s edits = withSpan s others) ∧
      Edit.sort edits = Edit.sort others ∧
      (Settings.strict.reprint? .ofLabels (leavesOf edits) ['a', 'b'] ()).outcome =
        (Settings.strict.reprint? .ofLabels (leavesOf others) ['a', 'b'] ()).outcome := by
  have hperm : [insertion ['('], removal, insertion [')']].Perm
      [insertion ['('], insertion [')'], removal] := by decide
  have htied : ∀ s, withSpan s [insertion ['('], removal, insertion [')']] =
      withSpan s [insertion ['('], insertion [')'], removal] := by
    intro s
    by_cases hs : removal.span = s
    · subst hs
      decide
    · simp only [withSpan, List.filter_cons, hs, decide_false, Bool.false_eq_true, if_false]
  obtain ⟨-, -, hsame⟩ := reprint_ignores_discovery_order hperm
  obtain ⟨hsort, -, hreprint, -⟩ := hsame htied
  refine ⟨_, _, rfl, rfl, hperm, htied, hsort, ?_⟩
  apply hreprint
  · exact result_walk_ofAnswer Tree.label (leavesOf [insertion ['('], removal, insertion [')']]) ()
  · exact result_walk_ofAnswer Tree.label (leavesOf [insertion ['('], insertion [')'], removal]) ()

end Retouch
