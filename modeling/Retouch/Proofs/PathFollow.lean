import Retouch.Proofs.FileTreeContent

/-!
# Following the components of a path

Components are followed through directories only, so they lead to the same place wherever the same
directories are found. Components that lead to a file end with its name, and the names of a file or
directory lead there.
-/

namespace Retouch

namespace Path

/-- What a file or directory can be called. -/
def IsName (name : String) : Prop := name ∉ ["", ".", ".."] ∧ '/' ∉ name.toList

theorem components_ne_nil (path : String) : components path ≠ [] := by
  rw [components, ne_eq, List.map_eq_nil_iff]
  exact List.splitOn_ne_nil '/' path.toList

theorem not_mem_of_mem_splitOn {xs piece : List Char} (h : piece ∈ xs.splitOn '/') :
    '/' ∉ piece := by
  induction xs generalizing piece with
  | nil =>
    obtain rfl := List.mem_singleton.1 h
    exact List.not_mem_nil
  | cons c xs ih =>
    obtain ⟨first, others, hsplit⟩ := List.exists_cons_of_ne_nil (List.splitOn_ne_nil '/' xs)
    rw [List.splitOn_cons_eq_if_modifyHead, hsplit] at h
    rw [hsplit] at ih
    split at h
    next =>
      rcases List.mem_cons.1 h with rfl | h
      · exact List.not_mem_nil
      · exact ih h
    next hc =>
      rcases List.mem_cons.1 h with rfl | h
      · have hne : '/' ≠ c := fun hslash => hc (beq_iff_eq.2 hslash.symm)
        exact List.not_mem_cons_of_ne_of_not_mem hne (ih List.mem_cons_self)
      · exact ih (List.mem_cons_of_mem first h)

theorem not_mem_of_mem_components {path name : String} (h : name ∈ components path) :
    '/' ∉ name.toList := by
  obtain ⟨piece, hpiece, rfl⟩ := List.mem_map.1 h
  rw [String.toList_ofList]
  exact not_mem_of_mem_splitOn hpiece

theorem components_intercalate {names : List String} (hne : names ≠ [])
    (h : ∀ name ∈ names, '/' ∉ name.toList) : components ("/".intercalate names) = names := by
  have hpieces : ∀ piece ∈ names.map String.toList, '/' ∉ piece := List.forall_mem_map.2 h
  have hsplit := List.splitOn_intercalate '/' hpieces (List.map_eq_nil_iff.not.2 hne)
  rw [components, String.toList_intercalate]
  exact (congrArg (List.map String.ofList) hsplit).trans (by simp)

theorem components_append (path other : String) :
    components (path ++ "/" ++ other) = components path ++ components other := by
  have htext : (path ++ "/" ++ other).toList = path.toList ++ '/' :: other.toList := by simp
  rw [components, htext, List.splitOn_append_cons_self, List.map_append]
  rfl

theorem components_of_slash (path : String) : components ("/" ++ path) = "" :: components path := by
  have h := components_append "" path
  rwa [String.empty_append] at h

theorem components_eq_singleton {name : String} (h : '/' ∉ name.toList) :
    components name = [name] := by
  have hsplit := components_intercalate (List.cons_ne_nil name []) (List.forall_mem_singleton.2 h)
  rwa [String.intercalate_singleton] at hsplit

theorem relative_iff {path : String} :
    path ≠ "" ∧ isAbsolute path = false ↔
      ∃ first others, components path = first :: others ∧ first ≠ "" := by
  rw [isAbsolute, components, ne_eq, ← String.toList_eq_nil_iff]
  cases path.toList with
  | nil => simp
  | cons c text =>
    obtain ⟨first, others, hsplit⟩ := List.exists_cons_of_ne_nil (List.splitOn_ne_nil '/' text)
    rw [List.splitOn_cons_eq_if_modifyHead, hsplit]
    by_cases hc : c = '/'
    · simp [hc]
    · simp [hc]

theorem exists_slash_of_isAbsolute {path : String} (h : isAbsolute path = true) :
    ∃ rest, path = "/" ++ rest := by
  rw [isAbsolute, beq_iff_eq, List.head?_eq_some_iff] at h
  obtain ⟨text, htext⟩ := h
  exact ⟨String.ofList text, String.toList_inj.1 (by simp [htext])⟩

theorem empty_or_absolute_or_relative (path : String) :
    path = "" ∨ (∃ rest, path = "/" ++ rest) ∨
      ∃ first others, components path = first :: others ∧ first ≠ "" := by
  by_cases hempty : path = ""
  · exact .inl hempty
  · cases habsolute : isAbsolute path with
    | true => exact .inr (.inl (exists_slash_of_isAbsolute habsolute))
    | false => exact .inr (.inr (relative_iff.1 ⟨hempty, habsolute⟩))

end Path

namespace FileTree

/-- Where path components lead from a place in a tree, or why they lead nowhere. Every component is
looked up in a directory. -/
inductive Leads (root : FileTree) :
    List String → List String → Except FileError (List String) → Prop
  | done (here) : Leads root here [] (.ok here)
  | missing {here} (name names) : root.contentAt? here = none →
    Leads root here (name :: names) (.error .notFound)
  | blocked {here bytes} (name names) : root.contentAt? here = some (some bytes) →
    Leads root here (name :: names) (.error .notADirectory)
  | stay {here name names outcome} : root.contentAt? here = some none → name = "" ∨ name = "." →
    Leads root here names outcome → Leads root here (name :: names) outcome
  | up {here names outcome} : root.contentAt? here = some none →
    Leads root here.dropLast names outcome → Leads root here (".." :: names) outcome
  | down {here name names outcome} : root.contentAt? here = some none →
    name ∉ ["", ".", ".."] → Leads root (here ++ [name]) names outcome →
    Leads root here (name :: names) outcome

theorem stepFrom_of_stay {name : String} (h : name = "" ∨ name = ".") (here : List String) :
    stepFrom here name = here := if_pos h

theorem stepFrom_of_name {name : String} (h : name ∉ ["", ".", ".."]) (here : List String) :
    stepFrom here name = here ++ [name] := by
  simp only [List.mem_cons, List.not_mem_nil, or_false, not_or] at h
  rw [stepFrom, if_neg (not_or.2 ⟨h.1, h.2.1⟩), if_neg h.2.2]

theorem follow_cons (root : FileTree) (here : List String) (name : String) (names : List String) :
    root.follow here (name :: names) =
      match root.contentAt? here with
      | none => .error .notFound
      | some (some _) => .error .notADirectory
      | some none => root.follow (stepFrom here name) names := by
  rw [follow, contentAt?]
  cases root.entryAt? here with
  | none => rfl
  | some entry => cases entry <;> rfl

theorem leads_follow (root : FileTree) (here names : List String) :
    root.Leads here names (root.follow here names) := by
  induction names generalizing here with
  | nil => exact .done here
  | cons name names ih =>
    rw [follow_cons]
    cases hhere : root.contentAt? here with
    | none => exact .missing name names hhere
    | some content =>
      cases content with
      | some bytes => exact .blocked name names hhere
      | none =>
        by_cases hstay : name = "" ∨ name = "."
        · exact .stay hhere hstay (by rw [stepFrom_of_stay hstay]; exact ih here)
        · by_cases hup : name = ".."
          · subst hup
            exact .up hhere (ih here.dropLast)
          · have hname : name ∉ ["", ".", ".."] := by simpa [hup] using hstay
            have hbelow := ih (here ++ [name])
            exact .down hhere hname (by rwa [stepFrom_of_name hname])

theorem leads_iff {root : FileTree} {here names : List String}
    {outcome : Except FileError (List String)} :
    root.Leads here names outcome ↔ root.follow here names = outcome := by
  refine ⟨fun h => ?_, fun h => h ▸ leads_follow root here names⟩
  induction h with
  | done here => rfl
  | missing name names hhere => rw [follow_cons, hhere]
  | blocked name names hhere => rw [follow_cons, hhere]
  | stay hhere hstay _ ih => rw [follow_cons, hhere, stepFrom_of_stay hstay, ih]
  | up hhere _ ih =>
    rw [follow_cons, hhere]
    exact ih
  | down hhere hname _ ih => rw [follow_cons, hhere, stepFrom_of_name hname, ih]

theorem follow_cons_eq_ok_iff {root : FileTree} {here names last : List String} {name : String} :
    root.follow here (name :: names) = .ok last ↔
      root.contentAt? here = some none ∧ root.follow (stepFrom here name) names = .ok last := by
  rw [follow_cons]
  cases root.contentAt? here with
  | none => simp
  | some content => cases content <;> simp

theorem follow_append_eq_ok_iff {root : FileTree} {start last xs ys : List String} :
    root.follow start (xs ++ ys) = .ok last ↔
      ∃ middle, root.follow start xs = .ok middle ∧ root.follow middle ys = .ok last := by
  induction xs generalizing start with
  | nil => simp [follow]
  | cons name xs ih =>
    rw [List.cons_append, follow_cons_eq_ok_iff, ih]
    simp only [follow_cons_eq_ok_iff, and_assoc, exists_and_left]

/-- A path leads to the same place in every tree that has the same directories. -/
theorem follow_mono {root other : FileTree}
    (hkept : ∀ names, root.contentAt? names = some none → other.contentAt? names = some none)
    {start names last : List String} (h : root.follow start names = .ok last) :
    other.follow start names = .ok last := by
  induction names generalizing start with
  | nil => exact h
  | cons name names ih =>
    obtain ⟨hhere, hrest⟩ := follow_cons_eq_ok_iff.1 h
    exact follow_cons_eq_ok_iff.2 ⟨hkept start hhere, ih hrest⟩

theorem follow_filter_isStep {root : FileTree} {start names last : List String}
    (h : root.follow start names = .ok last) :
    root.follow start (names.filter Path.isStep) = .ok last := by
  induction names generalizing start with
  | nil => exact h
  | cons name names ih =>
    obtain ⟨hhere, hrest⟩ := follow_cons_eq_ok_iff.1 h
    by_cases hstep : Path.isStep name = true
    · rw [List.filter_cons_of_pos hstep]
      exact follow_cons_eq_ok_iff.2 ⟨hhere, ih hrest⟩
    · rw [List.filter_cons_of_neg hstep]
      have hname : name = "" ∨ name = "." := by
        simp only [Path.isStep, Bool.and_eq_true, bne_iff_ne, not_and_or, not_not] at hstep
        exact hstep
      rw [stepFrom_of_stay hname] at hrest
      exact ih hrest

/-- Names lead where they say. -/
theorem follow_of_contentAt? {root : FileTree} {here names : List String}
    {content : Option ByteArray} (hnames : ∀ name ∈ names, Path.IsName name)
    (h : root.contentAt? (here ++ names) = some content) :
    root.follow here names = .ok (here ++ names) := by
  induction names generalizing here with
  | nil => rw [follow, List.append_nil]
  | cons name names ih =>
    obtain ⟨hname, hothers⟩ := List.forall_mem_cons.1 hnames
    refine follow_cons_eq_ok_iff.2 ⟨contentAt?_of_append_cons h, ?_⟩
    rw [List.append_cons] at h ⊢
    rw [stepFrom_of_name hname.1]
    exact ih hothers h

/-- The components of a path that spells names make no difference to the names themselves. -/
theorem follow_components_intercalate {root : FileTree} {here names : List String}
    (hhere : root.contentAt? here = some none) (hnames : ∀ name ∈ names, '/' ∉ name.toList) :
    root.follow here (Path.components ("/".intercalate names)) = root.follow here names := by
  cases names with
  | nil =>
    have hempty : Path.components "" = [""] := rfl
    rw [String.intercalate_nil, hempty, follow_cons, hhere]
    rfl
  | cons name names => rw [Path.components_intercalate (by simp) hnames]

/-- A component that leads to a file is a name. -/
theorem stepFrom_eq_of_file {root : FileTree} {here names : List String} {name : String}
    {bytes : ByteArray} (hhere : root.contentAt? here = some none)
    (hstep : stepFrom here name = names) (hfile : root.contentAt? names = some (some bytes)) :
    Path.isStep name = true ∧ names = here ++ [name] := by
  unfold stepFrom at hstep
  split at hstep
  next =>
    subst hstep
    rw [hhere] at hfile
    cases hfile
  next hname =>
    split at hstep
    next =>
      subst hstep
      rcases List.eq_nil_or_concat here with rfl | ⟨front, last, rfl⟩
      · cases hfile
      · rw [List.concat_eq_append] at hhere hfile
        rw [List.dropLast_concat, contentAt?_of_append_cons hhere] at hfile
        cases hfile
    next =>
      refine ⟨?_, hstep.symm⟩
      rw [not_or] at hname
      simpa [Path.isStep] using hname

theorem exists_parent_of_follow {root : FileTree} {start init names : List String} {last : String}
    {bytes : ByteArray} (h : root.follow start (init ++ [last]) = .ok names)
    (hfile : root.contentAt? names = some (some bytes)) :
    ∃ here, root.follow start init = .ok here ∧ root.contentAt? here = some none ∧
      Path.isStep last = true ∧ names = here ++ [last] := by
  obtain ⟨here, hinit, hlast⟩ := follow_append_eq_ok_iff.1 h
  obtain ⟨hhere, hstep⟩ := follow_cons_eq_ok_iff.1 hlast
  obtain ⟨hname, hnames⟩ := stepFrom_eq_of_file hhere (Except.ok.inj hstep) hfile
  exact ⟨here, hinit, hhere, hname, hnames⟩

/-- The components that a path's parent leaves out make no difference on the way to a file. -/
theorem exists_front_of_file {root : FileTree} {start others names : List String} {first : String}
    {bytes : ByteArray} (h : root.follow start (first :: others) = .ok names)
    (hfile : root.contentAt? names = some (some bytes)) :
    ∃ here name, root.follow start (first :: others.filter Path.isStep).dropLast = .ok here ∧
      root.contentAt? here = some none ∧ names = here ++ [name] := by
  rcases List.eq_nil_or_concat others with rfl | ⟨init, last, rfl⟩
  · have hbare : root.follow start ([] ++ [first]) = .ok names := h
    obtain ⟨here, hinit, hhere, -, hnames⟩ := exists_parent_of_follow hbare hfile
    exact ⟨here, first, hinit, hhere, hnames⟩
  · rw [List.concat_eq_append] at h ⊢
    rw [← List.cons_append] at h
    obtain ⟨here, hinit, hhere, hname, hnames⟩ := exists_parent_of_follow h hfile
    refine ⟨here, last, ?_, hhere, hnames⟩
    rw [List.filter_append, List.filter_cons_of_pos hname, List.filter_nil, ← List.cons_append,
      List.dropLast_concat]
    obtain ⟨hstart, hrest⟩ := follow_cons_eq_ok_iff.1 hinit
    exact follow_cons_eq_ok_iff.2 ⟨hstart, follow_filter_isStep hrest⟩

end FileTree

end Retouch
