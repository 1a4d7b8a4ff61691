import Retouch.Proofs.PathResolution

/-!
# Writing changes one file

Writing to a file that is there gives it the new content and changes nothing else. The file that is
written beside it on the way is gone in the end, so no file comes or goes.
-/

namespace Retouch

theorem decodeUtf8?_encodeUtf8 (text : Text) : decodeUtf8? (encodeUtf8 text) = some text := by
  have hvalid : (encodeUtf8 text).IsValidUTF8 := (String.ofList text).isValidUTF8
  rw [decodeUtf8?, String.fromUTF8?, dif_pos hvalid, Option.map_some]
  exact congrArg some String.toList_ofList

section

variable {σ ε ε' α β : Type} {x : ExceptT ε (StateM σ) α} {s s' : σ}

theorem run_bind_of_ok {f : α → ExceptT ε (StateM σ) β} {a : α} (h : x.run.run s = (.ok a, s')) :
    (x >>= f).run.run s = (f a).run.run s' := by
  rw [ExceptT.run_bind, StateT.run_bind, h]
  rfl

theorem run_bind_of_error {f : α → ExceptT ε (StateM σ) β} {e : ε}
    (h : x.run.run s = (.error e, s')) : (x >>= f).run.run s = (.error e, s') := by
  rw [ExceptT.run_bind, StateT.run_bind, h]
  rfl

theorem run_adapt (f : ε → ε') {result : Except ε α} (h : x.run.run s = (result, s')) :
    (x.adapt f).run.run s = (result.mapError f, s') := by
  rw [ExceptT.run_adapt, StateT.run_map, h]
  rfl

theorem run_tryCatch_of_ok {handle : ε → ExceptT ε (StateM σ) α} {a : α}
    (h : x.run.run s = (.ok a, s')) : (tryCatch x handle).run.run s = (.ok a, s') := by
  rw [ExceptT.run_tryCatch, StateT.run_bind, h]
  rfl

theorem run_tryCatch_of_error {handle : ε → ExceptT ε (StateM σ) α} {e : ε}
    (h : x.run.run s = (.error e, s')) :
    (tryCatch x handle).run.run s = (handle e).run.run s' := by
  rw [ExceptT.run_tryCatch, StateT.run_bind, h]
  rfl

end

namespace FileTree

theorem lookup_freshName (entries : FileTree) : entries.lookup (freshName entries) = none := by
  rw [List.lookup_eq_none_iff]
  intro entry hentry
  have hle : entry.1.length ≤ (entries.flatMap fun entry => entry.1.toList).length := by
    have hmem : entry.1.toList ∈ entries.map fun entry => entry.1.toList :=
      List.mem_map.2 ⟨entry, hentry, rfl⟩
    rw [← String.length_toList, List.flatMap_def]
    exact (List.sublist_flatten_of_mem hmem).length_le
  have hlength : (freshName entries).length =
      (entries.flatMap fun entry => entry.1.toList).length + 4 := by
    simp only [freshName, String.length_ofList, List.length_cons, List.length_replicate]
  rw [bne_iff_ne]
  intro hsame
  rw [hsame] at hlength
  omega

theorem contentAt?_freshName {root entries : FileTree} {here : List String}
    (h : root.entryAt? here = some (.directory entries)) :
    root.contentAt? (here ++ [freshName entries]) = none := by
  rw [contentAt?_append h, contentAt?_cons, lookup_freshName]

theorem isName_freshName (entries : FileTree) : Path.IsName (freshName entries) := by
  refine ⟨fun hmem => ?_, by simp [freshName, List.mem_replicate]⟩
  have hlength : ∀ name ∈ ["", ".", ".."], name.length < 3 := by decide
  have hfresh := hlength _ hmem
  simp only [freshName, String.length_ofList, List.length_cons] at hfresh
  omega

end FileTree

namespace Directory

/-- One name leads to something else than before. -/
structure Changed (before : Directory) (names : List String) (content : Option (Option ByteArray))
    (after : Directory) : Prop where
  place : after.names = before.names
  lookup : ∀ other, after.contentAt? other =
    if other = names then content else before.contentAt? other

namespace Changed

variable {before after : Directory} {names : List String} {content : Option (Option ByteArray)}

theorem same (h : Changed before names content after) : after.contentAt? names = content := by
  rw [h.lookup, if_pos rfl]

theorem of_ne (h : Changed before names content after) {other : List String}
    (hne : other ≠ names) : after.contentAt? other = before.contentAt? other := by
  rw [h.lookup, if_neg hne]

theorem trans {last : Directory} {content' : Option (Option ByteArray)}
    (h : Changed before names content after) (h' : Changed after names content' last) :
    Changed before names content' last where
  place := h'.place.trans h.place
  lookup := by
    intro other
    rw [h'.lookup, h.lookup]
    split <;> rfl

/-- What came and went makes no difference. -/
theorem lookup_of_none (h : Changed before names none after)
    (hnone : before.contentAt? names = none) (other : List String) :
    after.contentAt? other = before.contentAt? other := by
  by_cases hother : other = names
  · rw [hother, h.same, hnone]
  · exact h.of_ne hother

/-- Paths lead where they led if no directory was changed. -/
theorem resolve (h : Changed before names content after)
    (hnames : before.contentAt? names ≠ some none) {path : String} {last : List String}
    (hpath : before.resolve path = .ok last) : after.resolve path = .ok last := by
  refine resolve_mono h.place (fun other hother => ?_) hpath
  rw [h.of_ne, hother]
  rintro rfl
  exact hnames hother

end Changed

theorem changed_put {d : Directory} {here : List String} {name : String}
    (hhere : d.contentAt? here = some none) (hname : d.contentAt? (here ++ [name]) ≠ some none)
    (bytes : ByteArray) :
    Changed d (here ++ [name]) (some (some bytes)) (d.put (here ++ [name]) bytes) :=
  ⟨rfl, FileTree.contentAt?_put hhere hname bytes⟩

theorem changed_remove {d : Directory} {path : String} {names : List String} {bytes : ByteArray}
    (h : d.fileAt path = .ok (names, bytes)) : Changed d names none (d.remove path) := by
  rw [remove, h]
  exact ⟨rfl, FileTree.contentAt?_remove (contentAt?_of_fileAt h)⟩

theorem create_of_resolve {d : Directory} {path : String} {here : List String}
    (h : d.resolve path = .ok here) (hhere : d.contentAt? here = some none) :
    ∃ name created, d.create path = (.ok (path ++ "/" ++ name), created) ∧ Path.IsName name ∧
      d.contentAt? (here ++ [name]) = none ∧
      Changed d (here ++ [name]) (some (some .empty)) created := by
  obtain ⟨entries, hentries⟩ := FileTree.contentAt?_eq_directory_iff.1 hhere
  have hnone := FileTree.contentAt?_freshName hentries
  refine ⟨FileTree.freshName entries, _, ?_, FileTree.isName_freshName entries, hnone,
    changed_put hhere (by simp [contentAt?, hnone]) _⟩
  rw [create, directoryAt_eq_ok_iff.2 ⟨h, hentries⟩]

theorem fill_of_fileAt {d : Directory} {path : String} {here : List String} {name : String}
    {old : ByteArray} (h : d.fileAt path = .ok (here ++ [name], old)) (bytes : ByteArray) :
    ∃ filled, d.fill path bytes = (.ok (), filled) ∧
      Changed d (here ++ [name]) (some (some bytes)) filled := by
  have hold := contentAt?_of_fileAt h
  refine ⟨d.put (here ++ [name]) bytes, by rw [fill, h], ?_⟩
  exact changed_put (FileTree.contentAt?_of_append_cons hold) (by simp [hold]) bytes

theorem move_of_fileAt {d : Directory} {source path : String} {fresh here : List String}
    {name : String} {old bytes : ByteArray} (hsource : d.fileAt source = .ok (fresh, bytes))
    (h : d.fileAt path = .ok (here ++ [name], old)) (hne : here ++ [name] ≠ fresh) :
    ∃ removed moved, d.move source path = (.ok (), moved) ∧ Changed d fresh none removed ∧
      Changed removed (here ++ [name]) (some (some bytes)) moved := by
  obtain ⟨hresolve, hold⟩ := fileAt_eq_ok_iff.1 h
  have htarget : d.targetAt path = .ok (here ++ [name]) := by
    rw [targetAt, hresolve]
    simp only [bind, Except.bind, FileTree.contentAt?_eq_file_iff.1 hold]
  have hremoved := changed_remove hsource
  have hhere : (d.remove source).contentAt? here = some none := by
    rw [hremoved.of_ne, contentAt?, FileTree.contentAt?_of_append_cons hold]
    rintro rfl
    have hfresh := contentAt?_of_fileAt hsource
    rw [contentAt?, FileTree.contentAt?_of_append_cons hold] at hfresh
    cases hfresh
  have hname : (d.remove source).contentAt? (here ++ [name]) ≠ some none := by
    rw [hremoved.of_ne hne, hold]
    simp
  refine ⟨d.remove source, _, ?_, hremoved, changed_put hhere hname bytes⟩
  simp only [move, hsource, htarget]

/-- A file with a fresh name is made and filled, and everything else is as it was. -/
theorem exists_filled {d : Directory} {parent : String} {here : List String}
    (hparent : d.resolve parent = .ok here) (hhere : d.contentAt? here = some none)
    (bytes : ByteArray) :
    ∃ path name created filled, d.create parent = (.ok path, created) ∧
      created.fill path bytes = (.ok (), filled) ∧ d.contentAt? (here ++ [name]) = none ∧
      Changed d (here ++ [name]) (some (some bytes)) filled ∧
      filled.fileAt path = .ok (here ++ [name], bytes) := by
  obtain ⟨name, created, hcreate, hname, hnone, hcreated⟩ := create_of_resolve hparent hhere
  have hfile : ∀ {state content}, Changed d (here ++ [name]) (some (some content)) state →
      state.fileAt (parent ++ "/" ++ name) = .ok (here ++ [name], content) := by
    intro state content hstate
    have hled := hstate.resolve (by simp [hnone]) hparent
    refine fileAt_eq_ok_iff.2 ⟨resolve_join hled ?_ hname, hstate.same⟩
    exact FileTree.contentAt?_of_append_cons hstate.same
  obtain ⟨filled, hfill, hfilled⟩ := fill_of_fileAt (hfile hcreated) bytes
  have hfilled := hcreated.trans hfilled
  exact ⟨_, name, created, filled, hcreate, hfill, hnone, hfilled, hfile hfilled⟩

theorem eq_of_move_error {d left : Directory} {source path : String} {error : FileError}
    (h : d.move source path = (.error error, left)) : left = d := by
  unfold move at h
  split at h
  · exact (Prod.mk.inj h).2.symm
  · exact (Prod.mk.inj h).2.symm
  · cases (Prod.mk.inj h).1

theorem run_replace {d created filled : Directory} {path parent fresh : String}
    {bytes : ByteArray} (hparent : Path.parent? path = some parent)
    (hcreate : d.create parent = (.ok fresh, created))
    (hfill : created.fill fresh bytes = (.ok (), filled)) :
    (operations.replace path bytes).run.run d =
      match filled.move fresh path with
      | (.ok (), moved) => (.ok (), moved)
      | (.error error, left) => (.error (.file error), left.remove fresh) := by
  have hcreate' : (operations.create parent).run.run d = (.ok fresh, created) := hcreate
  have hfill' : (operations.fill fresh bytes).run.run created = (.ok (), filled) := hfill
  have hinstall : (operations.fill fresh bytes >>= fun _ => operations.move fresh path).run.run
      created = filled.move fresh path := run_bind_of_ok hfill'
  rw [FileOperations.replace, hparent]
  dsimp only
  rw [run_bind_of_ok (run_adapt WriteError.file hcreate')]
  rcases hmove : filled.move fresh path with ⟨answer, left⟩
  rw [hmove] at hinstall
  cases answer with
  | ok _ => exact run_tryCatch_of_ok (run_adapt WriteError.file hinstall)
  | error error => exact run_tryCatch_of_error (run_adapt WriteError.file hinstall)

/-- While the fresh file is there, everything else is as it was. In the end it stands in the place
of the old file. -/
theorem replace_of_fileAt {d : Directory} {path : String} {names : List String}
    {old : ByteArray} (h : d.fileAt path = .ok (names, old)) (bytes : ByteArray) :
    ∃ after, (operations.replace path bytes).run.run d = (.ok (), after) ∧
      Changed d names (some (some bytes)) after := by
  obtain ⟨hresolve, hold⟩ := fileAt_eq_ok_iff.1 h
  obtain ⟨parent, here, name, hparent, hhere, hdirectory, rfl⟩ := exists_parent_of_fileAt h
  obtain ⟨path', fresh, created, filled, hcreate, hfill, hnone, hfilled, hfresh⟩ :=
    exists_filled hhere hdirectory bytes
  have hne : here ++ [name] ≠ here ++ [fresh] := by
    intro hsame
    rw [hsame, hnone] at hold
    cases hold
  have htarget : filled.fileAt path = .ok (here ++ [name], old) :=
    fileAt_eq_ok_iff.2
      ⟨hfilled.resolve (by simp [hnone]) hresolve, (hfilled.of_ne hne).trans hold⟩
  obtain ⟨removed, after, hmove, hremoved, hmoved⟩ := move_of_fileAt hfresh htarget hne
  refine ⟨after, by rw [run_replace hparent hcreate hfill, hmove], ?_, fun other => ?_⟩
  · rw [hmoved.place, hremoved.place, hfilled.place]
  · rw [hmoved.lookup, (hfilled.trans hremoved).lookup_of_none hnone]

/-- A replacement that fails leaves nothing behind. -/
theorem contentAt?_of_replace_error {d after : Directory} {path : String} {bytes : ByteArray}
    {error : WriteError}
    (h : (operations.replace path bytes).run.run d = (.error error, after)) :
    after.names = d.names ∧ ∀ other, after.contentAt? other = d.contentAt? other := by
  cases hparent : Path.parent? path with
  | none =>
    rw [FileOperations.replace, hparent] at h
    obtain ⟨-, rfl⟩ := Prod.mk.inj h
    exact ⟨rfl, fun _ => rfl⟩
  | some parent =>
    cases hdirectory : d.directoryAt parent with
    | error cause =>
      have hcreate : (operations.create parent).run.run d = (.error cause, d) := by
        change d.create parent = _
        rw [create, hdirectory]
      rw [FileOperations.replace, hparent] at h
      dsimp only at h
      rw [run_bind_of_error (run_adapt WriteError.file hcreate)] at h
      obtain ⟨-, rfl⟩ := Prod.mk.inj h
      exact ⟨rfl, fun _ => rfl⟩
    | ok found =>
      obtain ⟨here, entries⟩ := found
      obtain ⟨hhere, hentries⟩ := directoryAt_eq_ok_iff.1 hdirectory
      obtain ⟨fresh, name, created, filled, hcreate, hfill, hnone, hfilled, hfresh⟩ :=
        exists_filled hhere (FileTree.contentAt?_eq_directory_iff.2 ⟨entries, hentries⟩) bytes
      rw [run_replace hparent hcreate hfill] at h
      rcases hmove : filled.move fresh path with ⟨_ | _, left⟩
      · rw [hmove] at h
        obtain rfl := eq_of_move_error hmove
        obtain ⟨-, rfl⟩ := Prod.mk.inj h
        have hremoved := hfilled.trans (changed_remove hfresh)
        exact ⟨hremoved.place, hremoved.lookup_of_none hnone⟩
      · rw [hmove] at h
        cases (Prod.mk.inj h).1

theorem run_read (d : Directory) (path : String) :
    (operations.read path).run.run d = (d.read path, d) := rfl

theorem write_of_error {d : Directory} {path : String} {error : FileError}
    (h : d.fileAt path = .error error) (text : Text) :
    d.write path text = (.error (.file error), d) := by
  have hread := run_read d path
  rw [read, h] at hread
  rw [write, FileOperations.write]
  exact run_bind_of_error (run_adapt WriteError.file hread)

theorem write_of_same {d : Directory} {path : String} {names : List String} {text : Text}
    (h : d.fileAt path = .ok (names, encodeUtf8 text)) :
    d.write path text = (.ok (.unchanged path), d) := by
  have hread := run_read d path
  rw [read, h] at hread
  rw [write, FileOperations.write, run_bind_of_ok (run_adapt WriteError.file hread), if_pos rfl]
  rfl

theorem write_of_ne {d : Directory} {path : String} {names : List String} {old : ByteArray}
    {text : Text} (h : d.fileAt path = .ok (names, old)) (hne : old ≠ encodeUtf8 text) :
    ∃ after, d.write path text = (.ok (.written path (encodeUtf8 text).size), after) ∧
      Changed d names (some (some (encodeUtf8 text))) after := by
  obtain ⟨after, hreplace, hafter⟩ := replace_of_fileAt h (encodeUtf8 text)
  refine ⟨after, ?_, hafter⟩
  have hdata : old.data ≠ (encodeUtf8 text).data := fun hdata => hne (ByteArray.ext hdata)
  have hread := run_read d path
  rw [read, h] at hread
  rw [write, FileOperations.write, run_bind_of_ok (run_adapt WriteError.file hread),
    if_neg hdata, run_bind_of_ok hreplace]
  rfl

/-- A file already holds its own content. -/
theorem changed_self {d : Directory} {path : String} {names : List String} {bytes : ByteArray}
    (h : d.fileAt path = .ok (names, bytes)) : Changed d names (some (some bytes)) d := by
  refine ⟨rfl, fun other => ?_⟩
  by_cases hother : other = names
  · rw [if_pos hother, hother, contentAt?_of_fileAt h]
  · rw [if_neg hother]

/-- Writing to a file that is there succeeds and changes that file only. A file that has the
content already stays as it is, which makes no difference here. -/
theorem write_of_fileAt {d : Directory} {path : String} {names : List String} {old : ByteArray}
    (h : d.fileAt path = .ok (names, old)) (text : Text) :
    ∃ result written, d.write path text = (.ok result, written) ∧
      Changed d names (some (some (encodeUtf8 text))) written := by
  by_cases hsame : old = encodeUtf8 text
  · subst hsame
    exact ⟨_, _, write_of_same h, changed_self h⟩
  · obtain ⟨written, hwrite, hwritten⟩ := write_of_ne h hsame
    exact ⟨_, written, hwrite, hwritten⟩

end Directory

end Retouch
