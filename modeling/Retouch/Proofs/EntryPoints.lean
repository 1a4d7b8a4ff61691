import Retouch.Proofs.Outcome

/-!
# The ways to reprint agree

Every reprint of a text that is not empty is one walk, one ordering of what the walk found, the
checks that the settings name, and one splice. So settings can only refuse, they have no part in
what is asked of the query, and whether a query that never fails is taken for one that may fail
makes no difference.
-/

namespace Retouch

variable {α σ τ ε : Type}

/-- Every check of `a` is one of `b`. -/
instance : LE Settings where
  le a b := (a.rejectOverlapping = true → b.rejectOverlapping = true) ∧
    (a.rejectOutOfBounds = true → b.rejectOutOfBounds = true)

theorem Settings.lenient_le (settings : Settings) : lenient ≤ settings := by
  constructor <;> intro h <;> cases h

theorem check_eq_ok_of_le {c d : Settings} (hcd : c ≤ d) {text : Text} {edits : List Edit}
    (h : check d text edits = .ok ()) : check c text edits = .ok () := by
  rw [check_eq_ok_iff] at h ⊢
  exact ⟨fun hc => h.1 (hcd.1 hc), fun hc => h.2 (hcd.2 hc)⟩

theorem outcome_of_le {c d : Settings} (hcd : c ≤ d) {v : Visitor α σ ε} {tree : Tree α}
    {source out : Text} {state : σ} (h : (d.reprint? v tree source state).outcome = .ok out) :
    (c.reprint? v tree source state).outcome = .ok out := by
  by_cases hsource : source = []
  · subst hsource
    exact h
  · rw [outcome_reprint?_eq_ok_iff hsource] at h ⊢
    obtain ⟨found, hfound, hcheck, hout⟩ := h
    exact ⟨found, hfound, check_eq_ok_of_le hcd hcheck, hout⟩

theorem Walked.result_eq_error_iff {w : Walked σ ε} {error : ε} :
    w.result = .error error ↔ w.failure = some error := by
  unfold Walked.result
  cases w.failure <;> simp

/-- Only the walk decides whether the query's failure is the outcome. -/
theorem outcome_eq_query_iff (settings : Settings) {v : Visitor α σ ε} {tree : Tree α}
    {source : Text} {state : σ} {error : ε} :
    (settings.reprint? v tree source state).outcome = .error (.query error) ↔
      source ≠ [] ∧ (walk v tree state).failure = some error := by
  by_cases hsource : source = []
  · subst hsource
    refine iff_of_false (fun h => ?_) fun h => h.1 rfl
    cases h
  · rw [outcome_reprint? settings v tree state hsource, ← Walked.result_eq_error_iff]
    cases (walk v tree state).result with
    | error other => simp [hsource]
    | ok found =>
      dsimp only
      cases (applyEdits settings source (Edit.sort found)).1 <;> simp [Except.mapError]

/-- Edits are refused only after a walk that has not failed. -/
theorem failure_of_rejected {settings : Settings} {v : Visitor α σ ε} {tree : Tree α}
    {source : Text} {state : σ} {fault : Fault}
    (h : (settings.reprint? v tree source state).outcome = .error (.rejected fault)) :
    source ≠ [] ∧ (walk v tree state).failure = none := by
  by_cases hsource : source = []
  · subst hsource
    cases h
  · refine ⟨hsource, ?_⟩
    rw [outcome_reprint? settings v tree state hsource] at h
    cases hresult : (walk v tree state).result with
    | error error =>
      rw [hresult] at h
      cases h
    | ok found => exact (Walked.result_eq_ok_iff.1 hresult).1

theorem state_reprint? (settings : Settings) (v : Visitor α σ ε) (tree : Tree α)
    {source : Text} (state : σ) (hsource : source ≠ []) :
    (settings.reprint? v tree source state).state = (walk v tree state).state := by
  have hempty : source.isEmpty = false := by simpa using hsource
  simp only [Settings.reprint?, hempty, Bool.false_eq_true, if_false]
  cases (walk v tree state).result <;> rfl

theorem state_reprint (settings : Settings) (v : Visitor α σ Empty) (tree : Tree α)
    {source : Text} (state : σ) (hsource : source ≠ []) :
    (settings.reprint v tree source state).state = (walk v tree state).state := by
  have hempty : source.isEmpty = false := by simpa using hsource
  simp only [Settings.reprint, hempty, Bool.false_eq_true, if_false]

theorem state_unchecked (v : Visitor α σ Empty) (tree : Tree α) {source : Text} (state : σ)
    (hsource : source ≠ []) :
    (reprint v tree source state).state = (walk v tree state).state := by
  have hempty : source.isEmpty = false := by simpa using hsource
  simp only [reprint, hempty, Bool.false_eq_true, if_false]

/-- A visitor that only keeps a longer state has the same outcome. -/
theorem outcome_of_walk_withState {v : Visitor α σ ε} {w : Visitor α τ ε} {tree : Tree α}
    {state : σ} {long final : τ} (h : walk w tree long = (walk v tree state).withState final)
    (settings : Settings) (source : Text) :
    (settings.reprint? w tree source long).outcome =
      (settings.reprint? v tree source state).outcome := by
  by_cases hsource : source = []
  · subst hsource
    rfl
  · rw [outcome_reprint? settings w tree long hsource,
      outcome_reprint? settings v tree state hsource, h]
    rfl

/-- The visitor that also writes down each failure of the query. -/
def Visitor.noting (v : Visitor α σ ε) : Visitor α (σ × List ε) ε where
  ask := fun tree (state, failures) =>
    match v.ask tree state with
    | .ok answer state => .ok answer (state, failures)
    | .error error state => .error error (state, failures ++ [error])
  opening := fun tree (state, failures) => (v.opening tree state, failures)

theorem Visitor.noting_ask (v : Visitor α σ ε) (tree : Tree α) (state : σ) (failures : List ε) :
    v.noting.ask tree (state, failures) =
      match v.ask tree state with
      | .ok answer state => .ok answer (state, failures)
      | .error error state => .error error (state, failures ++ [error]) := rfl

/-- The query fails at most once in a walk, and then the walk has failed. -/
theorem walkFrom_noting (v : Visitor α σ ε) (frames : List (List (Tree α))) (state : σ)
    (failures : List ε) :
    walkFrom v.noting frames (state, failures) =
      (walkFrom v frames state).withState ((walkFrom v frames state).state,
        failures ++ (walkFrom v frames state).failure.toList) := by
  fun_induction walkFrom v frames state with
  | case1 state =>
    rw [walkFrom, Option.toList_none, List.append_nil]
    rfl
  | case2 frames state ih => rw [walkFrom, ih]
  | case3 label children siblings frames state error after hask =>
    rw [walkFrom, Visitor.noting_ask, hask]
    rfl
  | case4 label children siblings frames state edit after hask ih =>
    rw [walkFrom, Visitor.noting_ask, hask]
    dsimp only
    rw [ih]
    rfl
  | case5 label children siblings frames state after hask opened below ih =>
    rw [walkFrom, Visitor.noting_ask, hask]
    change (walkFrom v.noting below (opened, failures)).precededBy none = _
    rw [ih]
    rfl

/-- A query that cannot fail, taken for one that may fail with errors of any type. -/
def Visitor.fallible (v : Visitor α σ Empty) : Visitor α σ ε where
  ask := fun tree state =>
    match v.ask tree state with
    | .ok answer state => .ok answer state
    | .error error _ => nomatch error
  opening := v.opening

theorem Visitor.fallible_ask {v : Visitor α σ Empty} {tree : Tree α} {state after : σ}
    {answer : Option Edit} (h : v.ask tree state = .ok answer after) :
    (v.fallible : Visitor α σ ε).ask tree state = .ok answer after := by
  simp only [fallible, h]

theorem walkFrom_fallible (v : Visitor α σ Empty) (frames : List (List (Tree α))) (state : σ) :
    walkFrom (v.fallible : Visitor α σ ε) frames state =
      ⟨(walkFrom v frames state).edits, (walkFrom v frames state).visited,
        (walkFrom v frames state).state, none⟩ := by
  fun_induction walkFrom v frames state with
  | case1 state => rw [walkFrom]
  | case2 frames state ih => rw [walkFrom, ih]
  | case3 label children siblings frames state error => exact error.elim
  | case4 label children siblings frames state edit after hask ih =>
    rw [walkFrom, Visitor.fallible_ask hask]
    dsimp only
    rw [ih]
    rfl
  | case5 label children siblings frames state after hask opened below ih =>
    rw [walkFrom, Visitor.fallible_ask hask]
    change (walkFrom (v.fallible : Visitor α σ ε) below opened).precededBy none = _
    rw [ih]
    rfl

theorem walk_fallible (v : Visitor α σ Empty) (tree : Tree α) (state : σ) :
    (walk (v.fallible : Visitor α σ ε) tree state).result = .ok (walk v tree state).edits ∧
      (walk (v.fallible : Visitor α σ ε) tree state).state = (walk v tree state).state := by
  rw [walk, walkFrom_fallible]
  exact ⟨rfl, rfl⟩

/-- Both ways to reprint with a query that never fails have the same outcome and leave the same
state. -/
theorem reprint?_fallible (settings : Settings) (v : Visitor α σ Empty) (tree : Tree α)
    (source : Text) (state : σ) :
    (settings.reprint? (v.fallible : Visitor α σ ε) tree source state).outcome =
        (settings.reprint v tree source state).outcome.mapError .rejected ∧
      (settings.reprint? (v.fallible : Visitor α σ ε) tree source state).state =
        (settings.reprint v tree source state).state := by
  by_cases hsource : source = []
  · subst hsource
    exact ⟨rfl, rfl⟩
  · obtain ⟨hresult, hstate⟩ := walk_fallible (ε := ε) v tree state
    constructor
    · rw [outcome_reprint? settings _ tree state hsource, hresult,
        outcome_reprint settings v tree state hsource]
    · rw [state_reprint? settings _ tree state hsource, hstate,
        state_reprint settings v tree state hsource]

theorem check_lenient (text : Text) (edits : List Edit) : check .lenient text edits = .ok () := by
  rw [check_eq_ok_iff]
  constructor <;> intro h <;> cases h

/-- Without checks nothing is refused. -/
theorem reprint_lenient (v : Visitor α σ Empty) (tree : Tree α) (source : Text) (state : σ) :
    (Settings.lenient.reprint v tree source state).outcome =
        .ok (reprint v tree source state).outcome ∧
      (Settings.lenient.reprint v tree source state).state =
        (reprint v tree source state).state := by
  by_cases hsource : source = []
  · subst hsource
    exact ⟨rfl, rfl⟩
  · constructor
    · rw [outcome_reprint _ v tree state hsource, outcome_unchecked v tree state hsource,
        applyEdits_eq_ok_iff]
      exact ⟨check_lenient _ _, rfl⟩
    · rw [state_reprint _ v tree state hsource, state_unchecked v tree state hsource]

theorem Visitor.fallible_recording (v : Visitor α σ Empty) :
    (v.recording.fallible : Visitor α (σ × List (Call α)) ε) = v.fallible.recording := by
  unfold fallible recording
  congr 1
  funext tree (state, calls)
  dsimp only
  cases v.ask tree state with
  | ok answer state => rfl
  | error error => exact error.elim

theorem walk_noting (v : Visitor α σ ε) (tree : Tree α) (state : σ) :
    walk v.noting tree (state, []) = (walk v tree state).withState ((walk v tree state).state,
      (walk v tree state).failure.toList) :=
  walkFrom_noting v [[tree]] state []

/-- The calls of a reprint are those of the walk, and there are none for an empty text. -/
theorem exists_calls (v : Visitor α σ ε) (tree : Tree α) (source : Text) (state : σ) :
    ∃ (final : σ) (calls : List (Call α)), ∀ settings : Settings,
      (settings.reprint? v.recording tree source (state, [])).outcome =
          (settings.reprint? v tree source state).outcome ∧
        (settings.reprint? v.recording tree source (state, [])).state = (final, calls) ∧
        (settings.reprint? v tree source state).state = final := by
  obtain ⟨calls, hrecording, -, -⟩ := walkFrom_recording v [[tree]] state []
  have hwalk : walk v.recording tree (state, []) =
      (walk v tree state).withState ((walk v tree state).state, calls) := hrecording
  by_cases hsource : source = []
  · subst hsource
    exact ⟨state, [], fun _ => ⟨rfl, rfl, rfl⟩⟩
  · refine ⟨(walk v tree state).state, calls, fun settings => ⟨?_, ?_, ?_⟩⟩
    · exact outcome_of_walk_withState hwalk settings source
    · rw [state_reprint? settings _ tree _ hsource, hwalk]
      rfl
    · exact state_reprint? settings v tree state hsource

/-- Settings only refuse: what stricter settings let pass has the same outcome under laxer ones
and without checks, a failure of the query is the outcome whatever the settings, the calls are the
same whatever the settings, and edits are refused only if the query failed on no node. For a query
`w` that never fails, the ways to reprint have the same text, the same fault and the same calls. -/
theorem reprint_entry_points_agree (v : Visitor α σ ε) (w : Visitor α σ Empty) (tree : Tree α)
    (source : Text) (state : σ) :
    (∀ (c d : Settings) (out : Text), c ≤ d →
      (d.reprint? v tree source state).outcome = .ok out →
      (c.reprint? v tree source state).outcome = .ok out ∧
        (reprint? v tree source state).outcome = .ok out) ∧
    (∀ (c : Settings) (error : ε),
      (c.reprint? v tree source state).outcome = .error (.query error) →
      (∀ d : Settings, (d.reprint? v tree source state).outcome = .error (.query error)) ∧
        (reprint? v tree source state).outcome = .error (.query error)) ∧
    (∃ (final : σ) (calls : List (Call α)), ∀ c : Settings,
      (c.reprint? v.recording tree source (state, [])).outcome =
          (c.reprint? v tree source state).outcome ∧
        (c.reprint? v.recording tree source (state, [])).state = (final, calls) ∧
        (c.reprint? v tree source state).state = final) ∧
    (∀ (c : Settings) (fault : Fault),
      (c.reprint? v tree source state).outcome = .error (.rejected fault) →
      (c.reprint? v.noting tree source (state, [])).outcome = .error (.rejected fault) ∧
        (c.reprint? v.noting tree source (state, [])).state.2 = []) ∧
    (∀ c : Settings,
      (∀ out, (c.reprint w tree source state).outcome = .ok out ↔
        (c.reprint? (w.fallible : Visitor α σ ε) tree source state).outcome = .ok out) ∧
      (∀ fault, (c.reprint w tree source state).outcome = .error fault ↔
        (c.reprint? (w.fallible : Visitor α σ ε) tree source state).outcome =
          .error (.rejected fault)) ∧
      (c.reprint w.recording tree source (state, [])).state =
        (c.reprint? (w.fallible : Visitor α σ ε).recording tree source (state, [])).state) ∧
    (reprint? (w.fallible : Visitor α σ ε) tree source state).outcome =
      .ok (reprint w tree source state).outcome ∧
    (reprint w.recording tree source (state, [])).state =
      (reprint? (w.fallible : Visitor α σ ε).recording tree source (state, [])).state := by
  refine ⟨?_, ?_, exists_calls v tree source state, ?_, ?_, ?_, ?_⟩
  · intro c d out hcd hout
    exact ⟨outcome_of_le hcd hout, outcome_of_le d.lenient_le hout⟩
  · intro c error herror
    have hfailed := (outcome_eq_query_iff c).1 herror
    exact ⟨fun d => (outcome_eq_query_iff d).2 hfailed, (outcome_eq_query_iff _).2 hfailed⟩
  · intro c fault hfault
    obtain ⟨hsource, hfailure⟩ := failure_of_rejected hfault
    constructor
    · rw [outcome_of_walk_withState (walk_noting v tree state), hfault]
    · rw [state_reprint? c _ tree _ hsource, walk_noting, hfailure]
      rfl
  · intro c
    obtain ⟨houtcome, -⟩ := reprint?_fallible (ε := ε) c w tree source state
    refine ⟨fun out => ?_, fun fault => ?_, ?_⟩
    · rw [houtcome, mapError_eq_ok_iff]
    · rw [houtcome]
      cases (c.reprint w tree source state).outcome <;> simp [Except.mapError]
    · rw [← Visitor.fallible_recording]
      exact (reprint?_fallible c w.recording tree source (state, [])).2.symm
  · rw [reprint?, (reprint?_fallible _ w tree source state).1,
      (reprint_lenient w tree source state).1]
    rfl
  · rw [reprint?, ← Visitor.fallible_recording, (reprint?_fallible _ w.recording tree source _).2,
      (reprint_lenient w.recording tree source _).2]

end Retouch
