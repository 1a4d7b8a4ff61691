import Retouch.Proofs.IdentifierText
import Retouch.Proofs.RequestRun

/-!
# The names that a rename accepts

A rename is accepted if each of its two names holds one identifier. What stands around the
identifier is read over but not taken away: the pass looks for nodes spelled like the whole old
name, and puts the whole new name in their place. So a rename inserts identifiers only where its
names have no white space, no comment and no byte order mark.
-/

namespace Retouch.Command

open Token

theorem checkNames_rename_iff {old new : String} :
    checkNames (.rename old new) = .ok () ↔
      (∃ spelling, readIdentifier old.toList = .ok spelling) ∧
        ∃ spelling, readIdentifier new.toList = .ok spelling := by
  constructor
  · intro h
    obtain ⟨o, hold, h⟩ := bind_eq_ok_iff.1 h
    obtain ⟨n, hnew, -⟩ := bind_eq_ok_iff.1 h
    exact ⟨⟨o, mapError_eq_ok_iff.1 hold⟩, n, mapError_eq_ok_iff.1 hnew⟩
  · rintro ⟨⟨o, hold⟩, n, hnew⟩
    exact bind_eq_ok_iff.2 ⟨o, mapError_eq_ok_iff.2 hold,
      bind_eq_ok_iff.2 ⟨n, mapError_eq_ok_iff.2 hnew, rfl⟩⟩

/-- The identifier in a name that is accepted, and when it is the whole name. -/
theorem exists_identifier {name : String} {spelling : Text}
    (h : readIdentifier name.toList = .ok spelling) :
    IsIdentifier spelling ∧ Padded name.toList spelling ∧
      (name.toList = spelling ↔ ∀ c ∈ name.toList, Bare c) := by
  obtain ⟨hidentifier, hpadded⟩ := readIdentifier_eq_ok_iff.1 h
  exact ⟨hidentifier, hpadded, hpadded.eq_iff hidentifier.1⟩

/-- Each name of an accepted rename is an identifier with trivia around it, and is the identifier
itself exactly if its characters are bare. Every edit replaces a node spelled like the old name by
the new name as it was given. -/
theorem rename_inserts_padded_identifier {old new : String}
    (h : checkNames (.rename old new) = .ok ()) :
    ∃ o n : Text,
      (IsIdentifier o ∧ Padded old.toList o ∧ (old.toList = o ↔ ∀ c ∈ old.toList, Bare c)) ∧
      (IsIdentifier n ∧ Padded new.toList n ∧ (new.toList = n ↔ ∀ c ∈ new.toList, Bare c)) ∧
      ∀ (source : Text) (tree : Parse.Tree),
        ∃ (pass : Parse.Pass) (matched : List (Parse.Tree × Edit)),
        pass = Action.pass source (.rename old new) ∧ matched = outermost pass tree ∧
        (walk (pass.visitor : Visitor Parse.Node Unit Empty) tree ()).result =
          .ok (matched.map Prod.snd) ∧
        ∀ m ∈ matched, m.1.label.kind ∈ Parse.Pass.nameKinds ∧
          m.1.label.text? source = some old.toList ∧
          m.2 = ⟨.replace, new.toList, m.1.label.span source⟩ := by
  obtain ⟨⟨o, hold⟩, n, hnew⟩ := checkNames_rename_iff.1 h
  refine ⟨o, n, exists_identifier hold, exists_identifier hnew, fun source tree => ?_⟩
  refine ⟨_, _, rfl, rfl, result_walk_ofAnswer _ tree (), fun m hm => ?_⟩
  exact Parse.rename_eq_some_iff.1 (mem_outermost hm).2

theorem checkNames_of_identifiers {old new : String} {o n : Text}
    (hold : readIdentifier old.toList = .ok o) (hnew : readIdentifier new.toList = .ok n) :
    checkNames (.rename old new) = .ok () :=
  checkNames_rename_iff.2 ⟨⟨o, hold⟩, n, hnew⟩

/-- The comment behind the new name goes into the text with it. -/
theorem rename_inserts_comment :
    checkNames (.rename "r#a" "b//") = .ok () ∧ ∃ o n : Text,
      IsIdentifier o ∧ "r#a".toList = o ∧ IsIdentifier n ∧ Padded "b//".toList n ∧
        "b//".toList ≠ n := by
  have hnames : checkNames (.rename "r#a" "b//") = .ok () :=
    checkNames_of_identifiers (o := ['r', '#', 'a']) (n := ['b']) (by decide +kernel)
      (by decide +kernel)
  obtain ⟨o, n, ⟨ho, -, hold⟩, ⟨hn, hpadded, hnew⟩, -⟩ :=
    rename_inserts_padded_identifier hnames
  refine ⟨hnames, o, n, ho, hold.2 ?_, hn, hpadded, fun heq => ?_⟩
  · exact IsName.bare (.raw (.mk (by decide) (by simp)) (by decide))
  · exact (hnew.1 heq '/' (by decide)).2.1 rfl

def renameToLine : Request := ⟨none, "lib.rs", .rename "a" "b\n", ⟨false, false, true⟩⟩

/-- A new name with a line break behind its identifier is accepted, and the line break is
inserted. -/
theorem rename_inserts_line_break :
    checkNames (.rename "a" "b\n") = .ok () ∧
      readIdentifier "b\n".toList = .ok ['b'] ∧ "b\n".toList ≠ ['b'] ∧
      (run (fun _ => oneName) false oneFile ["rename", "lib.rs", "--from=a", "--to=b\n"]).1 =
        ⟨0, "b\n", ""⟩ := by
  have hold : readIdentifier "a".toList = .ok ['a'] := by decide +kernel
  have hnew : readIdentifier "b\n".toList = .ok ['b'] := by decide +kernel
  have hnames := checkNames_of_identifiers hold hnew
  have hrequest : Invocation.ofArguments ["rename", "lib.rs", "--from=a", "--to=b\n"] =
      .request renameToLine := by decide +kernel
  have hprepare : renameToLine.prepare (fun _ => oneName) oneFile.read =
      .ok ⟨['a'], ['b', '\n']⟩ :=
    Request.prepare_eq_ok_iff.2 ⟨⟨.lenient, rfl, hnames, readSource_oneFile,
      reprintSource_renameOne rfl "b\n"⟩, fun _ => rfl⟩
  refine ⟨hnames, hnew, by decide, ?_⟩
  rw [run_of_request hrequest, Request.run_of_not_write false hprepare rfl]
  rfl

end Retouch.Command
