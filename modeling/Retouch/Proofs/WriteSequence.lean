import Mathlib.Data.List.Induction
import Retouch.Proofs.Writing

/-!
# Sequences of writes

Each write changes the file that its path leads to or nothing at all. Directories and files neither
come nor go, so a path leads to the same file before and after any sequence of writes, and in the
end a file holds the text of the last write that led to it.
-/

namespace Retouch

/-- A text to be written to a path. -/
structure Writing where
  path : String
  text : Text

namespace Directory

def writeAll (d : Directory) (writings : List Writing) : Directory :=
  writings.foldl (fun d w => (d.write w.path w.text).2) d

/-- The same directories, and the same files with perhaps another content. -/
structure SameNames (d other : Directory) : Prop where
  place : other.names = d.names
  directory : ∀ names, d.contentAt? names = some none ↔ other.contentAt? names = some none
  file : ∀ names, (∃ bytes, d.contentAt? names = some (some bytes)) ↔
    ∃ bytes, other.contentAt? names = some (some bytes)

namespace SameNames

theorem refl (d : Directory) : SameNames d d := ⟨rfl, fun _ => Iff.rfl, fun _ => Iff.rfl⟩

theorem trans {first second third : Directory} (h : SameNames first second)
    (h' : SameNames second third) : SameNames first third :=
  ⟨h'.place.trans h.place, fun names => (h.directory names).trans (h'.directory names),
    fun names => (h.file names).trans (h'.file names)⟩

theorem leadsTo_iff {d other : Directory} (h : SameNames d other) {path : String}
    {names : List String} : other.LeadsTo path (.ok names) ↔ d.LeadsTo path (.ok names) := by
  rw [Directory.leadsTo_iff, Directory.leadsTo_iff]
  exact ⟨resolve_mono h.place.symm fun names => (h.directory names).2,
    resolve_mono h.place fun names => (h.directory names).1⟩

end SameNames

theorem sameNames_of_changed {d after : Directory} {names : List String} {old bytes : ByteArray}
    (hold : d.contentAt? names = some (some old))
    (h : Changed d names (some (some bytes)) after) : SameNames d after where
  place := h.place
  directory := by
    intro other
    by_cases hother : other = names
    · rw [hother, hold, h.same]
      simp
    · rw [h.of_ne hother]
  file := by
    intro other
    by_cases hother : other = names
    · rw [hother, hold, h.same]
      exact ⟨fun _ => ⟨bytes, rfl⟩, fun _ => ⟨old, rfl⟩⟩
    · rw [h.of_ne hother]

/-- What becomes of one write, by where its path leads and what is found there. -/
structure Carried (before : Directory) (w : Writing) (answer : Except WriteError WriteResult)
    (after : Directory) : Prop where
  nowhere : ∀ cause, before.LeadsTo w.path (.error cause) →
    answer = .error (.file cause) ∧ after = before
  missing : ∀ names, before.LeadsTo w.path (.ok names) → before.contentAt? names = none →
    answer = .error (.file .notFound) ∧ after = before
  directory : ∀ names, before.LeadsTo w.path (.ok names) → before.contentAt? names = some none →
    answer = .error (.file .isADirectory) ∧ after = before
  unchanged : ∀ names, before.LeadsTo w.path (.ok names) →
    before.contentAt? names = some (some (encodeUtf8 w.text)) →
      answer = .ok (.unchanged w.path) ∧ after = before
  written : ∀ names old, before.LeadsTo w.path (.ok names) →
    before.contentAt? names = some (some old) → old ≠ encodeUtf8 w.text →
      answer = .ok (.written w.path (encodeUtf8 w.text).size)
  holds : ∀ result, answer = .ok result → ∃ names, before.LeadsTo w.path (.ok names) ∧
    after.LeadsTo w.path (.ok names) ∧ after.contentAt? names = some (some (encodeUtf8 w.text))
  kept : ∀ names, ¬ before.LeadsTo w.path (.ok names) →
    after.contentAt? names = before.contentAt? names
  again : ∀ result, answer = .ok result →
    after.write w.path w.text = (.ok (.unchanged w.path), after)
  sameNames : SameNames before after

theorem fileAt_of_leadsTo {d : Directory} {path : String} {names : List String}
    {bytes : ByteArray} (h : d.LeadsTo path (.ok names))
    (hcontent : d.contentAt? names = some (some bytes)) : d.fileAt path = .ok (names, bytes) :=
  fileAt_eq_ok_iff.2 ⟨leadsTo_iff.1 h, hcontent⟩

theorem carried_of_error {before : Directory} {w : Writing} {cause : FileError}
    (h : before.fileAt w.path = .error cause) :
    Carried before w (.error (.file cause)) before := by
  have hcause : ∀ {other}, before.fileAt w.path = .error other →
      Except.error (WriteError.file cause) = (.error (.file other) : Except _ WriteResult) ∧
        before = before := by
    intro other hother
    obtain rfl := Except.error.inj (h.symm.trans hother)
    exact ⟨rfl, rfl⟩
  constructor
  case nowhere =>
    intro other hother
    apply hcause
    rw [fileAt_eq, leadsTo_iff.1 hother]
  case missing =>
    intro names hnames hnone
    apply hcause
    simp only [fileAt_eq, leadsTo_iff.1 hnames, hnone]
  case directory =>
    intro names hnames hdirectory
    apply hcause
    simp only [fileAt_eq, leadsTo_iff.1 hnames, hdirectory]
  case unchanged =>
    intro names hnames hfile
    cases h.symm.trans (fileAt_of_leadsTo hnames hfile)
  case written =>
    intro names old hnames hfile
    cases h.symm.trans (fileAt_of_leadsTo hnames hfile)
  case holds => exact fun _ hok => nomatch hok
  case kept => exact fun _ _ => rfl
  case again => exact fun _ hok => nomatch hok
  case sameNames => exact .refl before

theorem carried_of_fileAt {before after : Directory} {w : Writing} {names : List String}
    {old : ByteArray} {result : WriteResult} (h : before.fileAt w.path = .ok (names, old))
    (hafter : Changed before names (some (some (encodeUtf8 w.text))) after)
    (hsame : old = encodeUtf8 w.text → result = .unchanged w.path ∧ after = before)
    (hnew : old ≠ encodeUtf8 w.text → result = .written w.path (encodeUtf8 w.text).size) :
    Carried before w (.ok result) after := by
  obtain ⟨hresolve, hold⟩ := fileAt_eq_ok_iff.1 h
  have hnames : SameNames before after := sameNames_of_changed hold hafter
  have hbefore : before.LeadsTo w.path (.ok names) := leadsTo_iff.2 hresolve
  have hled := hnames.leadsTo_iff.2 hbefore
  have hunique : ∀ {outcome}, before.LeadsTo w.path outcome → outcome = .ok names :=
    fun hother => (leadsTo_iff.1 hother).symm.trans hresolve
  constructor
  case nowhere => exact fun cause herror => nomatch hunique herror
  case missing =>
    intro other hother hnone
    obtain rfl := Except.ok.inj (hunique hother)
    cases hold.symm.trans hnone
  case directory =>
    intro other hother hdirectory
    obtain rfl := Except.ok.inj (hunique hother)
    cases hold.symm.trans hdirectory
  case unchanged =>
    intro other hother hcontent
    obtain rfl := Except.ok.inj (hunique hother)
    rw [hold, Option.some.injEq, Option.some.injEq] at hcontent
    obtain ⟨hresult, hbefore⟩ := hsame hcontent
    exact ⟨congrArg Except.ok hresult, hbefore⟩
  case written =>
    intro other bytes hother hcontent hne
    obtain rfl := Except.ok.inj (hunique hother)
    rw [hold, Option.some.injEq, Option.some.injEq] at hcontent
    exact congrArg Except.ok (hnew (hcontent ▸ hne))
  case holds => exact fun _ _ => ⟨names, hbefore, hled, hafter.same⟩
  case kept =>
    intro other hother
    refine hafter.of_ne ?_
    rintro rfl
    exact hother hbefore
  case again => exact fun _ _ => write_of_same (fileAt_of_leadsTo hled hafter.same)
  case sameNames => exact hnames

theorem carried_write (before : Directory) (w : Writing) :
    Carried before w (before.write w.path w.text).1 (before.write w.path w.text).2 := by
  cases hfile : before.fileAt w.path with
  | error cause =>
    rw [write_of_error hfile]
    exact carried_of_error hfile
  | ok found =>
    obtain ⟨names, old⟩ := found
    by_cases hsame : old = encodeUtf8 w.text
    · subst hsame
      rw [write_of_same hfile]
      exact carried_of_fileAt hfile (changed_self hfile) (fun _ => ⟨rfl, rfl⟩)
        fun hne => absurd rfl hne
    · obtain ⟨after, hwrite, hafter⟩ := write_of_ne hfile hsame
      rw [hwrite]
      exact carried_of_fileAt hfile hafter (fun h => absurd h hsame) fun _ => rfl

theorem writeAll_concat (d : Directory) (writings : List Writing) (w : Writing) :
    d.writeAll (writings ++ [w]) = ((d.writeAll writings).write w.path w.text).2 := by
  rw [writeAll, List.foldl_append]
  rfl

theorem sameNames_writeAll (d : Directory) (writings : List Writing) :
    SameNames d (d.writeAll writings) := by
  induction writings using List.reverseRecOn with
  | nil => exact .refl d
  | append_singleton writings w ih =>
    rw [writeAll_concat]
    exact ih.trans (carried_write _ w).sameNames

/-- A write gives its text to the file that its path leads to. -/
theorem contentAt?_write (d : Directory) (w : Writing) (names : List String) :
    (d.write w.path w.text).2.contentAt? names =
      (d.contentAt? names).map (Option.map fun old =>
        if d.LeadsTo w.path (.ok names) then encodeUtf8 w.text else old) := by
  have hcarried := carried_write d w
  by_cases hled : d.LeadsTo w.path (.ok names)
  · cases hcontent : d.contentAt? names with
    | none => rw [(hcarried.missing names hled hcontent).2, hcontent, Option.map_none]
    | some content =>
      cases content with
      | none =>
        rw [(hcarried.directory names hled hcontent).2, hcontent, Option.map_some, Option.map_none]
      | some old =>
        obtain ⟨result, written, hwrite, hwritten⟩ :=
          write_of_fileAt (fileAt_of_leadsTo hled hcontent) w.text
        rw [hwrite, hwritten.same, Option.map_some, Option.map_some, if_pos hled]
  · rw [hcarried.kept names hled]
    simp [hled]

theorem contentAt?_writeAll (d : Directory) (writings : List Writing) (names : List String) :
    (d.writeAll writings).contentAt? names =
      (d.contentAt? names).map (Option.map fun old =>
        match (writings.filter fun w => d.LeadsTo w.path (.ok names)).getLast? with
        | some w => encodeUtf8 w.text
        | none => old) := by
  induction writings using List.reverseRecOn with
  | nil => simp [writeAll]
  | append_singleton writings w ih =>
    have hsame := sameNames_writeAll d writings
    rw [writeAll_concat, contentAt?_write, ih, List.filter_append, Option.map_map,
      Option.map_comp_map]
    by_cases hled : d.LeadsTo w.path (.ok names)
    · simp [hled, hsame.leadsTo_iff, Function.comp_def]
    · simp [hled, hsame.leadsTo_iff, Function.comp_def]

/-- The names of a file or directory spell a path that leads there, from the root, and one that
leads there from a directory above. -/
theorem leadsTo_of_contentAt? {d : Directory} {names : List String} {content : Option ByteArray}
    (hnames : ∀ name ∈ names, Path.IsName name) (h : d.contentAt? names = some content) :
    d.LeadsTo ("/" ++ "/".intercalate names) (.ok names) ∧
      ∀ below, below ≠ [] → names = d.names ++ below →
        d.LeadsTo ("/".intercalate below) (.ok names) := by
  refine ⟨leadsTo_iff.2 (resolve_absolute hnames h), ?_⟩
  rintro below hne rfl
  have hbelow : ∀ name ∈ below, Path.IsName name :=
    fun name hname => hnames name (List.mem_append_right _ hname)
  exact leadsTo_iff.2 (resolve_below hne hbelow h)

/-- A file is found by the paths that its names spell. Each write of a sequence fails and changes
nothing, or leaves its file with the bytes of its text and everything else as it was, and then the
same write once more finds nothing to do. In the end a file holds the text of the last write that
led to it, and nothing has come or gone. Even a replacement that fails on its way leaves nothing
behind. -/
theorem writes_change_named_files (d : Directory) (writings : List Writing) :
    (∀ names content, (∀ name ∈ names, Path.IsName name) → d.contentAt? names = some content →
      d.LeadsTo ("/" ++ "/".intercalate names) (.ok names) ∧
        ∀ below, below ≠ [] → names = d.names ++ below →
          d.LeadsTo ("/".intercalate below) (.ok names)) ∧
    (∀ earlier w later, writings = earlier ++ w :: later →
      ∃ before answer after, before = d.writeAll earlier ∧
        before.write w.path w.text = (answer, after) ∧ Carried before w answer after) ∧
    SameNames d (d.writeAll writings) ∧
    (∀ names, (d.writeAll writings).contentAt? names =
      (d.contentAt? names).map (Option.map fun old =>
        match (writings.filter fun w => d.LeadsTo w.path (.ok names)).getLast? with
        | some w => encodeUtf8 w.text
        | none => old)) ∧
    ∀ path bytes error after,
      (operations.replace path bytes).run.run d = (.error error, after) →
        after.names = d.names ∧ ∀ other, after.contentAt? other = d.contentAt? other := by
  refine ⟨fun names content => leadsTo_of_contentAt?, fun earlier w later _ => ?_,
    sameNames_writeAll d writings, contentAt?_writeAll d writings,
    fun path bytes error after => contentAt?_of_replace_error⟩
  exact ⟨_, _, _, rfl, rfl, carried_write (d.writeAll earlier) w⟩

def oldLine : Text := "fn old() {}\n".toList

def newLine : Text := "fn new() {}\n".toList

/-- A directory below the root that holds one file. -/
def crate : Directory where
  root := [("tmp", .directory [("d", .directory [("lib.rs", .file (encodeUtf8 oldLine))])])]
  names := ["tmp", "d"]

/-- The file is found from the root, from its directory, and by a path that leaves its directory
and comes back. -/
theorem crate_written_by_every_path :
    (∃ after, crate.write "/tmp/d/lib.rs" newLine = (.ok (.written "/tmp/d/lib.rs" 12), after) ∧
      after.contentAt? ["tmp", "d", "lib.rs"] = some (some (encodeUtf8 newLine)) ∧
      after.write "../d/lib.rs" newLine = (.ok (.unchanged "../d/lib.rs"), after)) ∧
    crate.write "lib.rs" oldLine = (.ok (.unchanged "lib.rs"), crate) ∧
    crate.write "/tmp/d/absent.rs" newLine = (.error (.file .notFound), crate) := by
  have hfile : crate.contentAt? ["tmp", "d", "lib.rs"] = some (some (encodeUtf8 oldLine)) := rfl
  have hnames : ∀ name ∈ ["tmp", "d", "lib.rs"], Path.IsName name := by simp [Path.IsName]
  have hne : encodeUtf8 oldLine ≠ encodeUtf8 newLine := by decide +kernel
  have hsize : (encodeUtf8 newLine).size = 12 := by decide +kernel
  have hstep : ∀ (before : Directory) (w : Writing), ∃ answer after,
      before.write w.path w.text = (answer, after) ∧ Carried before w answer after := by
    intro before w
    obtain ⟨_, answer, after, rfl, hwrite, hcarried⟩ :=
      (writes_change_named_files before [w]).2.1 [] w [] rfl
    exact ⟨answer, after, hwrite, hcarried⟩
  obtain ⟨hroot, hbelow⟩ := (writes_change_named_files crate []).1 _ _ hnames hfile
  refine ⟨?_, ?_, ?_⟩
  · obtain ⟨_, after, hwrite, hcarried⟩ := hstep crate ⟨"/tmp/d/lib.rs", newLine⟩
    obtain rfl := hcarried.written _ _ hroot hfile hne
    obtain ⟨names, hbefore, -, hcontent⟩ := hcarried.holds _ rfl
    obtain rfl := Except.ok.inj ((leadsTo_iff.1 hbefore).symm.trans (leadsTo_iff.1 hroot))
    have hback : crate.LeadsTo "../d/lib.rs" (.ok ["tmp", "d", "lib.rs"]) := leadsTo_iff.2 rfl
    obtain ⟨_, last, hagain, hcarried'⟩ := hstep after ⟨"../d/lib.rs", newLine⟩
    obtain ⟨rfl, rfl⟩ :=
      hcarried'.unchanged _ (hcarried.sameNames.leadsTo_iff.2 hback) hcontent
    rw [hsize] at hwrite
    exact ⟨last, hwrite, hcontent, hagain⟩
  · obtain ⟨_, after, hwrite, hcarried⟩ := hstep crate ⟨"lib.rs", oldLine⟩
    have hbare := hbelow ["lib.rs"] (List.cons_ne_nil _ _) rfl
    obtain ⟨rfl, rfl⟩ := hcarried.unchanged _ hbare hfile
    exact hwrite
  · obtain ⟨_, after, hwrite, hcarried⟩ := hstep crate ⟨"/tmp/d/absent.rs", newLine⟩
    have habsent : crate.LeadsTo "/tmp/d/absent.rs" (.ok ["tmp", "d", "absent.rs"]) :=
      leadsTo_iff.2 rfl
    obtain ⟨rfl, rfl⟩ := hcarried.missing _ habsent rfl
    exact hwrite

end Directory

end Retouch
