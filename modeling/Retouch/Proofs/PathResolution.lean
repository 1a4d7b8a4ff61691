import Retouch.Directory
import Retouch.Proofs.PathFollow

/-!
# Where paths lead

A path leads from the root or from the directory, and the names of a file or directory spell a path
of each kind that leads there. The parent of a path to a file is the directory that the file is in,
however the path is spelled.
-/

namespace Retouch

namespace Directory

def contentAt? (d : Directory) (names : List String) : Option (Option ByteArray) :=
  d.root.contentAt? names

/-- Where a path leads, from the root of the tree or from the directory. -/
inductive LeadsTo (d : Directory) : String → Except FileError (List String) → Prop
  | empty : LeadsTo d "" (.error .notFound)
  | absolute {path outcome} : d.root.Leads [] (Path.components path) outcome →
    LeadsTo d ("/" ++ path) outcome
  | relative {path outcome} : path ≠ "" → Path.isAbsolute path = false →
    d.root.Leads d.names (Path.components path) outcome → LeadsTo d path outcome

theorem resolve_of_slash (d : Directory) (path : String) :
    d.resolve ("/" ++ path) = d.root.follow [] (Path.components path) := by
  have hne : "/" ++ path ≠ "" := by simp
  have habsolute : Path.isAbsolute ("/" ++ path) = true := by simp [Path.isAbsolute]
  rw [resolve, if_neg hne, start, if_pos habsolute, Path.components_of_slash,
    FileTree.follow_cons]
  rfl

theorem resolve_of_relative (d : Directory) {path : String} (hne : path ≠ "")
    (h : Path.isAbsolute path = false) :
    d.resolve path = d.root.follow d.names (Path.components path) := by
  rw [resolve, if_neg hne, start, h]
  rfl

theorem leadsTo_resolve (d : Directory) (path : String) : d.LeadsTo path (d.resolve path) := by
  obtain rfl | ⟨rest, rfl⟩ | hrelative := Path.empty_or_absolute_or_relative path
  · exact .empty
  · rw [resolve_of_slash]
    exact .absolute (FileTree.leads_follow _ _ _)
  · obtain ⟨hne, hrelative⟩ := Path.relative_iff.2 hrelative
    rw [resolve_of_relative d hne hrelative]
    exact .relative hne hrelative (FileTree.leads_follow _ _ _)

theorem leadsTo_iff {d : Directory} {path : String} {outcome : Except FileError (List String)} :
    d.LeadsTo path outcome ↔ d.resolve path = outcome := by
  refine ⟨fun h => ?_, fun h => h ▸ leadsTo_resolve d path⟩
  cases h with
  | empty => rfl
  | absolute h => rw [resolve_of_slash, FileTree.leads_iff.1 h]
  | relative hne hrelative h => rw [resolve_of_relative d hne hrelative, FileTree.leads_iff.1 h]

instance (d : Directory) (path : String) (outcome : Except FileError (List String)) :
    Decidable (d.LeadsTo path outcome) := decidable_of_iff _ leadsTo_iff.symm

/-- A path leads to the same place in every tree that has the same directories. -/
theorem resolve_mono {d other : Directory} (hnames : other.names = d.names)
    (hkept : ∀ names, d.contentAt? names = some none → other.contentAt? names = some none)
    {path : String} {last : List String} (h : d.resolve path = .ok last) :
    other.resolve path = .ok last := by
  unfold resolve start at h ⊢
  split at h
  next => cases h
  next hne =>
    rw [if_neg hne, hnames]
    exact FileTree.follow_mono hkept h

theorem resolve_of_components (d : Directory) {path first : String} {others : List String}
    (h : Path.components path = first :: others) (hfirst : first ≠ "") :
    d.resolve path = d.root.follow d.names (first :: others) := by
  obtain ⟨hne, hrelative⟩ := Path.relative_iff.2 ⟨first, others, h, hfirst⟩
  rw [resolve_of_relative d hne hrelative, h]

/-- The names of a file or directory spell a path that starts at the root. -/
theorem resolve_absolute {d : Directory} {names : List String} {content : Option ByteArray}
    (hnames : ∀ name ∈ names, Path.IsName name) (h : d.contentAt? names = some content) :
    d.resolve ("/" ++ "/".intercalate names) = .ok names := by
  have hslash : ∀ name ∈ names, '/' ∉ name.toList := fun name hname => (hnames name hname).2
  rw [resolve_of_slash, FileTree.follow_components_intercalate rfl hslash]
  exact FileTree.follow_of_contentAt? hnames h

/-- The names below a directory spell a path that starts there. -/
theorem resolve_below {d : Directory} {names : List String} {content : Option ByteArray}
    (hne : names ≠ []) (hnames : ∀ name ∈ names, Path.IsName name)
    (h : d.contentAt? (d.names ++ names) = some content) :
    d.resolve ("/".intercalate names) = .ok (d.names ++ names) := by
  have hcomponents := Path.components_intercalate hne fun name hname => (hnames name hname).2
  cases names with
  | nil => exact absurd rfl hne
  | cons first others =>
    have hfirst : first ≠ "" := by
      rintro rfl
      exact (hnames "" List.mem_cons_self).1 List.mem_cons_self
    rw [resolve_of_components d hcomponents hfirst]
    exact FileTree.follow_of_contentAt? hnames h

theorem resolve_join {d : Directory} {path name : String} {here : List String}
    (h : d.resolve path = .ok here) (hhere : d.contentAt? here = some none)
    (hname : Path.IsName name) : d.resolve (path ++ "/" ++ name) = .ok (here ++ [name]) := by
  have hstep : d.root.follow here [name] = .ok (here ++ [name]) :=
    FileTree.follow_cons_eq_ok_iff.2 ⟨hhere, congrArg _ (FileTree.stepFrom_of_name hname.1 here)⟩
  have hcomponents : ∀ path, Path.components (path ++ "/" ++ name) =
      Path.components path ++ [name] := by
    intro path
    rw [Path.components_append, Path.components_eq_singleton hname.2]
  obtain rfl | ⟨rest, rfl⟩ | ⟨first, others, hpath, hfirst⟩ :=
    Path.empty_or_absolute_or_relative path
  · cases h
  · rw [resolve_of_slash] at h
    have hjoin : "/" ++ rest ++ "/" ++ name = "/" ++ (rest ++ "/" ++ name) := by
      simp only [String.append_assoc]
    rw [hjoin, resolve_of_slash, hcomponents, FileTree.follow_append_eq_ok_iff]
    exact ⟨here, h, hstep⟩
  · rw [resolve_of_components d hpath hfirst] at h
    have hjoin := hcomponents path
    rw [hpath, List.cons_append] at hjoin
    rw [resolve_of_components d hjoin hfirst, ← List.cons_append,
      FileTree.follow_append_eq_ok_iff]
    exact ⟨here, h, hstep⟩

theorem fileAt_eq (d : Directory) (path : String) :
    d.fileAt path =
      match d.resolve path with
      | .error error => .error error
      | .ok names =>
        match d.contentAt? names with
        | none => .error .notFound
        | some none => .error .isADirectory
        | some (some bytes) => .ok (names, bytes) := by
  rw [fileAt]
  cases d.resolve path with
  | error error => rfl
  | ok names =>
    simp only [bind, Except.bind, contentAt?, FileTree.contentAt?]
    cases d.root.entryAt? names with
    | none => rfl
    | some entry => cases entry <;> rfl

theorem fileAt_eq_ok_iff {d : Directory} {path : String} {names : List String}
    {bytes : ByteArray} :
    d.fileAt path = .ok (names, bytes) ↔
      d.resolve path = .ok names ∧ d.contentAt? names = some (some bytes) := by
  rw [fileAt_eq]
  cases d.resolve path with
  | error error => simp
  | ok led =>
    cases hcontent : d.contentAt? led with
    | none => grind
    | some content => cases content <;> grind

theorem directoryAt_eq_ok_iff {d : Directory} {path : String} {names : List String}
    {entries : FileTree} :
    d.directoryAt path = .ok (names, entries) ↔
      d.resolve path = .ok names ∧ d.root.entryAt? names = some (.directory entries) := by
  rw [directoryAt]
  cases d.resolve path with
  | error error => simp [bind, Except.bind]
  | ok led =>
    simp only [bind, Except.bind, Except.ok.injEq]
    cases hentry : d.root.entryAt? led with
    | none => grind
    | some entry => cases entry <;> grind

theorem contentAt?_of_fileAt {d : Directory} {path : String} {names : List String}
    {bytes : ByteArray} (h : d.fileAt path = .ok (names, bytes)) :
    d.contentAt? names = some (some bytes) := (fileAt_eq_ok_iff.1 h).2

theorem exists_parent_of_absolute {d : Directory} {path : String} {names : List String}
    {bytes : ByteArray} (h : d.resolve ("/" ++ path) = .ok names)
    (hfile : d.contentAt? names = some (some bytes)) :
    ∃ parent here name, Path.parent? ("/" ++ path) = some parent ∧ d.resolve parent = .ok here ∧
      d.contentAt? here = some none ∧ names = here ++ [name] := by
  rw [resolve_of_slash] at h
  obtain ⟨init, last, hpath⟩ : ∃ init last, Path.components path = init ++ [last] := by
    rcases List.eq_nil_or_concat (Path.components path) with hnil | ⟨init, last, hconcat⟩
    · exact absurd hnil (Path.components_ne_nil path)
    · exact ⟨init, last, by rw [hconcat, List.concat_eq_append]⟩
  rw [hpath] at h
  obtain ⟨here, hinit, hhere, hlast, hnames⟩ := FileTree.exists_parent_of_follow h hfile
  refine ⟨"/" ++ "/".intercalate (init.filter Path.isStep), here, last, ?_, ?_, hhere, hnames⟩
  · rw [Path.parent?, Path.components_of_slash, hpath]
    simp [hlast]
  · have hslash : ∀ name ∈ init.filter Path.isStep, '/' ∉ name.toList := by
      intro name hname
      have hmem : name ∈ Path.components path :=
        hpath ▸ List.mem_append_left _ (List.mem_of_mem_filter hname)
      exact Path.not_mem_of_mem_components hmem
    rw [resolve_of_slash, FileTree.follow_components_intercalate rfl hslash]
    exact FileTree.follow_filter_isStep hinit

theorem exists_parent_of_relative {d : Directory} {path first : String} {others names : List String}
    {bytes : ByteArray} (hpath : Path.components path = first :: others) (hfirst : first ≠ "")
    (h : d.resolve path = .ok names) (hfile : d.contentAt? names = some (some bytes)) :
    ∃ parent here name, Path.parent? path = some parent ∧ d.resolve parent = .ok here ∧
      d.contentAt? here = some none ∧ names = here ++ [name] := by
  rw [resolve_of_components d hpath hfirst] at h
  obtain ⟨here, name, hfront, hhere, hnames⟩ := FileTree.exists_front_of_file h hfile
  have hparent : Path.parent? path =
      some (if (first :: others.filter Path.isStep).dropLast.isEmpty then "."
        else "/".intercalate (first :: others.filter Path.isStep).dropLast) := by
    rw [Path.parent?, hpath]
    simp
  refine ⟨_, here, name, hparent, ?_, hhere, hnames⟩
  cases hsteps : others.filter Path.isStep with
  | nil =>
    rw [hsteps] at hfront
    obtain rfl : d.names = here := Except.ok.inj hfront
    have hdot : Path.components "." = ["."] := rfl
    rw [List.dropLast_singleton, List.isEmpty_nil, if_pos rfl,
      resolve_of_components d hdot (by decide), FileTree.follow_cons_eq_ok_iff]
    exact ⟨hhere, rfl⟩
  | cons step steps =>
    rw [hsteps, List.dropLast_cons_cons] at hfront
    have hsublist : (step :: steps).dropLast.Sublist others :=
      (List.dropLast_sublist _).trans (hsteps ▸ List.filter_sublist)
    have hslash : ∀ name ∈ first :: (step :: steps).dropLast, '/' ∉ name.toList := by
      intro name hname
      have hmem : name ∈ Path.components path := hpath ▸ (hsublist.cons_cons first).subset hname
      exact Path.not_mem_of_mem_components hmem
    rw [List.dropLast_cons_cons, List.isEmpty_cons, if_neg Bool.false_ne_true,
      resolve_of_components d (Path.components_intercalate (List.cons_ne_nil _ _) hslash) hfirst]
    exact hfront

/-- The parent of a path that leads to a file is the directory that the file is in. -/
theorem exists_parent_of_fileAt {d : Directory} {path : String} {names : List String}
    {bytes : ByteArray} (h : d.fileAt path = .ok (names, bytes)) :
    ∃ parent here name, Path.parent? path = some parent ∧ d.resolve parent = .ok here ∧
      d.contentAt? here = some none ∧ names = here ++ [name] := by
  obtain ⟨hresolve, hfile⟩ := fileAt_eq_ok_iff.1 h
  obtain rfl | ⟨rest, rfl⟩ | ⟨first, others, hpath, hfirst⟩ :=
    Path.empty_or_absolute_or_relative path
  · cases hresolve
  · exact exists_parent_of_absolute hresolve hfile
  · exact exists_parent_of_relative hpath hfirst hresolve hfile

end Directory

end Retouch
