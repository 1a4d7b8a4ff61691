import Retouch.Command.Run
import Retouch.Proofs.CommandLine
import Retouch.Proofs.PassReprint
import Retouch.Proofs.Writing

/-!
# A run does all or nothing

A run that fails shows nothing and leaves the directory as it was, and so does every run that is
not asked to write. A run that writes gives the named file the text that the same command prints
when it is not asked to write or to show a diff, and it ends with the same exit code.
-/

namespace Retouch

/-- Reading changes nothing, and finds what is there. -/
theorem Directory.run_readAll (d : Directory) (paths : List String) :
    ∃ read, (operations.readAll paths).run d = (read, d) ∧
      ∀ path ∈ paths, read path = d.read path := by
  induction paths with
  | nil => exact ⟨_, rfl, List.forall_mem_nil _⟩
  | cons path paths ih =>
    obtain ⟨others, hrun, hothers⟩ := ih
    refine ⟨fun other => if other = path then d.read path else others other, ?_, ?_⟩
    · rw [FileOperations.readAll, StateT.run_bind, run_read]
      change (operations.readAll paths >>= _).run d = _
      rw [StateT.run_bind, hrun]
      rfl
    · intro other hother
      dsimp only
      split
      next hpath => rw [hpath]
      next hpath => exact hothers other ((List.mem_cons.1 hother).resolve_left hpath)

namespace Command

theorem map_eq_ok_iff {ε α β : Type} {x : Except ε α} {f : α → β} {b : β} :
    x.map f = .ok b ↔ ∃ a, x = .ok a ∧ f a = b := by
  cases x <;> simp [Except.map]

namespace Request

variable {parse : Text → Parse.Tree} {directory : Directory} {r : Request} {draft : Draft}

/-- The request without validation. -/
def unvalidated (r : Request) : Request := { r with output := { r.output with validate := false } }

/-- The request with its result printed only. -/
def dry (r : Request) : Request :=
  { r with output := { r.output with diff := false, write := false } }

theorem prepare_dry (parse : Text → Parse.Tree) (read : ReadFile) (r : Request) :
    r.dry.prepare parse read = r.prepare parse read := rfl

theorem Sayable.dry (h : r.Sayable) : r.dry.Sayable := ⟨h.file, h.settings, h.placement⟩

/-- Validation is the last step of the preparation. -/
theorem prepare_eq_bind (parse : Text → Parse.Tree) (read : ReadFile) (r : Request) :
    r.prepare parse read = do
      let draft ← r.unvalidated.prepare parse read
      if r.output.validate then
        (Parse.validateReprint parse draft.source draft.reprinted).mapError (.damaged r.file)
      return draft := by
  simp only [prepare, unvalidated, Bool.false_eq_true, if_false, bind_assoc, pure_bind]

theorem prepare_unvalidated_eq_ok_iff {read : ReadFile} :
    r.unvalidated.prepare parse read = .ok draft ↔
      ∃ settings, loadSettings read r.settings = .ok settings ∧ checkNames r.action = .ok () ∧
        readSource read r.file = .ok draft.source ∧
          reprintSource parse settings r.action draft.source = .ok draft.reprinted := by
  obtain ⟨source, reprinted⟩ := draft
  constructor
  · intro h
    obtain ⟨settings, hsettings, h⟩ := bind_eq_ok_iff.1 h
    obtain ⟨_, hnames, h⟩ := bind_eq_ok_iff.1 h
    obtain ⟨read, hsource, h⟩ := bind_eq_ok_iff.1 h
    obtain ⟨made, hmade, h⟩ := bind_eq_ok_iff.1 h
    obtain ⟨rfl, rfl⟩ := Draft.mk.inj (Except.ok.inj h)
    exact ⟨settings, hsettings, hnames, hsource, hmade⟩
  · rintro ⟨settings, hsettings, hnames, hsource, hmade⟩
    exact bind_eq_ok_iff.2 ⟨settings, hsettings, bind_eq_ok_iff.2 ⟨(), hnames,
      bind_eq_ok_iff.2 ⟨source, hsource, bind_eq_ok_iff.2 ⟨reprinted, hmade, rfl⟩⟩⟩⟩

/-- A request is prepared if its settings are found, its names are good, its file is read and
reprinted, and the result is not refused. -/
theorem prepare_eq_ok_iff {read : ReadFile} :
    r.prepare parse read = .ok draft ↔
      (∃ settings, loadSettings read r.settings = .ok settings ∧ checkNames r.action = .ok () ∧
        readSource read r.file = .ok draft.source ∧
          reprintSource parse settings r.action draft.source = .ok draft.reprinted) ∧
        (r.output.validate = true →
          Parse.validateReprint parse draft.source draft.reprinted = .ok ()) := by
  rw [prepare_eq_bind, bind_eq_ok_iff, ← prepare_unvalidated_eq_ok_iff]
  cases r.output.validate with
  | false => simp [pure, Except.pure]
  | true => simp [bind_eq_ok_iff, mapError_eq_ok_iff, pure, Except.pure, Unique.exists_iff]

/-- A draft is made of a file that is there. -/
theorem fileAt_of_prepare (h : r.prepare parse directory.read = .ok draft) :
    ∃ names bytes, directory.fileAt r.file = .ok (names, bytes) ∧
      decodeUtf8? bytes = some draft.source := by
  obtain ⟨⟨settings, -, -, hsource, -⟩, -⟩ := prepare_eq_ok_iff.1 h
  obtain ⟨bytes, hread, htext⟩ := bind_eq_ok_iff.1 (mapError_eq_ok_iff.1 hsource)
  obtain ⟨⟨names, content⟩, hfile, rfl⟩ := map_eq_ok_iff.1 hread
  refine ⟨names, content, hfile, ?_⟩
  cases hdecode : decodeUtf8? content with
  | none =>
    rw [textOfBytes, hdecode] at htext
    cases htext
  | some text =>
    rw [textOfBytes, hdecode] at htext
    rw [Except.ok.inj htext]

theorem prepare_congr {read read' : ReadFile} (h : ∀ path ∈ r.paths, read path = read' path) :
    r.prepare parse read = r.prepare parse read' := by
  have hfile : readSource read r.file = readSource read' r.file := by
    rw [readSource, h r.file (List.mem_append_right _ (List.mem_singleton_self _)), readSource]
  have hsettings : loadSettings read r.settings = loadSettings read' r.settings := by
    cases hpath : r.settings with
    | none => rfl
    | some path =>
      have hmem : path ∈ r.paths := by simp [paths, hpath]
      rw [loadSettings, h path hmem, loadSettings]
  simp only [prepare, hfile, hsettings]

/-- A run prepares the request from the files as they are, and then writes or does not. -/
theorem run_eq (parse : Text → Parse.Tree) (colours : Bool) (directory : Directory) (r : Request) :
    r.run parse colours directory =
      match r.prepare parse directory.read with
      | .error failure => (.failed "" failure, directory)
      | .ok draft =>
        if r.output.write then
          let (result, directory) := directory.write r.file draft.reprinted
          (r.conclude colours draft (some result), directory)
        else (r.conclude colours draft none, directory) := by
  obtain ⟨read, hread, hsame⟩ := Directory.run_readAll directory r.paths
  rw [run, perform, StateT.run_bind, hread, ← prepare_congr hsame]
  change StateT.run (match r.prepare parse read with | .error _ => _ | .ok _ => _) directory = _
  cases r.prepare parse read with
  | error failure => rfl
  | ok draft => cases r.output.write <;> rfl

theorem run_of_prepare_error {failure : Failure} (colours : Bool)
    (h : r.prepare parse directory.read = .error failure) :
    r.run parse colours directory = (.failed "" failure, directory) := by
  rw [run_eq, h]

theorem run_of_not_write (colours : Bool) (h : r.prepare parse directory.read = .ok draft)
    (hwrite : r.output.write = false) :
    r.run parse colours directory = (r.conclude colours draft none, directory) := by
  rw [run_eq, h]
  simp [hwrite]

/-- A draft that is to be written is written to its file and nowhere else. -/
theorem run_of_write (colours : Bool) {names : List String} {bytes : ByteArray}
    (h : r.prepare parse directory.read = .ok draft) (hwrite : r.output.write = true)
    (hfile : directory.fileAt r.file = .ok (names, bytes)) :
    ∃ result written,
      r.run parse colours directory = (r.conclude colours draft (some (.ok result)), written) ∧
        directory.Changed names (some (some (encodeUtf8 draft.reprinted))) written := by
  obtain ⟨result, written, hresult, hwritten⟩ :=
    Directory.write_of_fileAt hfile draft.reprinted
  refine ⟨result, written, ?_, hwritten⟩
  rw [run_eq, h]
  simp [hwrite, hresult]

/-- Once there is a draft, nothing can fail. -/
theorem exit_run_of_prepare (colours : Bool) (h : r.prepare parse directory.read = .ok draft) :
    (r.run parse colours directory).1.exit = 0 := by
  cases hwrite : r.output.write with
  | false =>
    rw [run_of_not_write colours h hwrite]
    rfl
  | true =>
    obtain ⟨names, bytes, hfile, -⟩ := fileAt_of_prepare h
    obtain ⟨result, written, hrun, -⟩ := run_of_write colours h hwrite hfile
    rw [hrun]
    rfl

theorem exit_run_eq (colours colours' : Bool) :
    (r.run parse colours directory).1.exit = (r.dry.run parse colours' directory).1.exit := by
  have hprepare := prepare_dry parse directory.read r
  cases hdraft : r.prepare parse directory.read with
  | error failure =>
    rw [run_of_prepare_error colours hdraft, run_of_prepare_error colours' (hprepare.trans hdraft)]
  | ok draft =>
    rw [exit_run_of_prepare colours hdraft, exit_run_of_prepare colours' (hprepare.trans hdraft)]

theorem exists_draft_of_exit {colours : Bool}
    (h : (r.run parse colours directory).1.exit = 0) :
    ∃ draft, r.prepare parse directory.read = .ok draft := by
  cases hprepare : r.prepare parse directory.read with
  | ok draft => exact ⟨draft, rfl⟩
  | error failure =>
    rw [run_of_prepare_error colours hprepare] at h
    cases h

end Request

theorem run_of_request {parse : Text → Parse.Tree} {arguments : List String} {r : Request}
    (h : Invocation.ofArguments arguments = .request r) (colours : Bool) (directory : Directory) :
    run parse colours directory arguments = r.run parse colours directory := by
  rw [run, perform, h]
  rfl

/-- A request that fails shows nothing and changes nothing, a request that is not to be written
changes nothing, and a request that is to be written changes its file, to the text that the dry
request prints. -/
theorem run_all_or_nothing {arguments : List String} {r : Request}
    (hr : Invocation.ofArguments arguments = .request r) (parse : Text → Parse.Tree)
    (colours : Bool) (directory : Directory) :
    ((run parse colours directory arguments).1.exit ≠ 0 →
      (run parse colours directory arguments).2 = directory ∧
        (run parse colours directory arguments).1.stdout = "") ∧
    (r.output.write = false → (run parse colours directory arguments).2 = directory) ∧
    (∃ dry, Invocation.ofArguments dry = .request r.dry) ∧
    ∀ dry colours', Invocation.ofArguments dry = .request r.dry → r.output.write = true →
      (run parse colours directory arguments).1.exit =
          (run parse colours' directory dry).1.exit ∧
        ((run parse colours' directory dry).1.exit = 0 →
          (run parse colours directory arguments).2.names = directory.names ∧
          ∃ names bytes, directory.fileAt r.file = .ok (names, bytes) ∧
            ∀ other, (run parse colours directory arguments).2.contentAt? other =
              if other = names then some (some (run parse colours' directory dry).1.stdout.toUTF8)
              else directory.contentAt? other) := by
  rw [run_of_request hr]
  refine ⟨?_, ?_, ?_, ?_⟩
  · intro hexit
    cases hprepare : r.prepare parse directory.read with
    | ok draft => exact absurd (r.exit_run_of_prepare colours hprepare) hexit
    | error failure =>
      rw [Request.run_of_prepare_error colours hprepare]
      exact ⟨rfl, rfl⟩
  · intro hwrite
    cases hprepare : r.prepare parse directory.read with
    | ok draft => rw [Request.run_of_not_write colours hprepare hwrite]
    | error failure => rw [Request.run_of_prepare_error colours hprepare]
  · exact ⟨r.dry.arguments, (sayable_of_ofArguments hr).dry.ofArguments_arguments⟩
  · intro dry colours' hdry hwrite
    rw [run_of_request hdry]
    refine ⟨r.exit_run_eq colours colours', fun hexit => ?_⟩
    obtain ⟨draft, hprepare⟩ := Request.exists_draft_of_exit hexit
    have hdraft : r.prepare parse directory.read = .ok draft := hprepare
    obtain ⟨names, bytes, hfile, -⟩ := Request.fileAt_of_prepare hdraft
    obtain ⟨result, written, hrun, hwritten⟩ :=
      Request.run_of_write colours hdraft hwrite hfile
    rw [hrun]
    refine ⟨hwritten.place, names, bytes, hfile, fun other => ?_⟩
    rw [hwritten.lookup other, Request.run_of_not_write colours' hprepare rfl]
    rfl

def oneName : Parse.Tree := .node ⟨"identifier", none, 0, 1, ⟨0, 0⟩, ⟨0, 1⟩, .sound⟩ []

def oneFile : Directory where
  root := [("src", .directory [("lib.rs", .file (encodeUtf8 ['a']))])]
  names := ["src"]

def renameOne : Request := ⟨none, "lib.rs", .rename "a" "b", ⟨false, true, true⟩⟩

def renameArguments : List String := ["rename", "lib.rs", "--from", "a", "--to", "b", "-w"]

theorem ofArguments_renameArguments :
    Invocation.ofArguments renameArguments = .request renameOne := by decide +kernel

theorem readSource_oneFile : readSource oneFile.read "lib.rs" = .ok ['a'] := by
  have hread : oneFile.read "lib.rs" = .ok (encodeUtf8 ['a']) := rfl
  exact mapError_eq_ok_iff.2 (bind_eq_ok_iff.2 ⟨_, hread, by
    rw [textOfBytes, decodeUtf8?_encodeUtf8]⟩)

section

variable {parse : Text → Parse.Tree} (hparse : parse ['a'] = oneName)

include hparse

theorem reprintSource_renameOne (new : String) :
    reprintSource parse .lenient (.rename "a" new) ['a'] = .ok new.toList := by
  let pass : Parse.Pass := Action.pass ['a'] (.rename "a" new)
  let found : List Edit := [⟨.replace, new.toList, .ofZeroBased 0 0, .ofZeroBased 0 1⟩]
  have hwalk : (walk (pass.visitor : Visitor Parse.Node Unit Empty) oneName ()).result =
      .ok found := result_walk_ofAnswer pass oneName ()
  have hsort : Edit.sort found = found := Edit.sort_eq_self (by simp [found])
  simp only [reprintSource, mapError_eq_ok_iff, hparse]
  refine (outcome_reprint?_eq_ok_iff (by decide)).2 ⟨found, hwalk, ?_, ?_⟩
  · rw [hsort]
    rfl
  · rw [hsort]
    exact (List.append_nil new.toList).symm

theorem prepare_unvalidated_renameOne :
    renameOne.unvalidated.prepare parse oneFile.read = .ok ⟨['a'], ['b']⟩ := by
  have hold : readIdentifier ['a'] = .ok ['a'] := by decide +kernel
  have hnew : readIdentifier ['b'] = .ok ['b'] := by decide +kernel
  have hnames : checkNames (.rename "a" "b") = .ok () :=
    bind_eq_ok_iff.2 ⟨_, mapError_eq_ok_iff.2 hold,
      bind_eq_ok_iff.2 ⟨_, mapError_eq_ok_iff.2 hnew, rfl⟩⟩
  exact Request.prepare_unvalidated_eq_ok_iff.2
    ⟨.lenient, rfl, hnames, readSource_oneFile, reprintSource_renameOne hparse "b"⟩

end

/-- The file gets the text that is printed without `-w`. -/
theorem rename_writes_dry_run :
    Invocation.ofArguments renameArguments = .request renameOne ∧
      Invocation.ofArguments ["rename", "lib.rs", "--from", "a", "--to", "b"] =
        .request renameOne.dry ∧
      (run (fun _ => oneName) false oneFile ["rename", "lib.rs", "--from", "a", "--to", "b"]).1 =
        ⟨0, "b", ""⟩ ∧
      ∀ other, (run (fun _ => oneName) false oneFile renameArguments).2.contentAt? other =
        if other = ["src", "lib.rs"] then some (some "b".toUTF8)
        else oneFile.contentAt? other := by
  have hdry : Invocation.ofArguments ["rename", "lib.rs", "--from", "a", "--to", "b"] =
      .request renameOne.dry := by decide +kernel
  have hprepare : renameOne.dry.prepare (fun _ => oneName) oneFile.read = .ok ⟨['a'], ['b']⟩ :=
    Request.prepare_eq_ok_iff.2 ⟨Request.prepare_unvalidated_eq_ok_iff.1
      (prepare_unvalidated_renameOne rfl), fun _ => rfl⟩
  have hprinted : (run (fun _ => oneName) false oneFile
      ["rename", "lib.rs", "--from", "a", "--to", "b"]).1 = ⟨0, "b", ""⟩ := by
    rw [run_of_request hdry, Request.run_of_not_write false hprepare rfl]
    rfl
  obtain ⟨-, hwritten⟩ := (run_all_or_nothing ofArguments_renameArguments (fun _ => oneName) false
    oneFile).2.2.2 _ false hdry rfl
  rw [hprinted] at hwritten
  obtain ⟨-, names, bytes, hfile, hcontent⟩ := hwritten rfl
  have hnames : oneFile.fileAt "lib.rs" = .ok (["src", "lib.rs"], encodeUtf8 ['a']) := rfl
  obtain ⟨rfl, -⟩ := Prod.mk.inj (Except.ok.inj (hnames.symm.trans hfile))
  exact ⟨ofArguments_renameArguments, hdry, hprinted, hcontent⟩

end Command

end Retouch
