import Retouch.Proofs.WrittenSettings

/-!
# Loading settings ignores no key

Settings are loaded from a text exactly if the text is a document whose keys all set a check. If
they are not, the error is about the first key of the document's table that sets none. The table
has every key that a statement names at the top, in the order of their places. A file says the same
as its text, and its errors carry its path.
-/

namespace Retouch

namespace LoadError

/-- The file that an error is about. -/
def path? : LoadError → Option String
  | unreadable path _ => some path
  | malformed path .. | unfit path .. => path

theorem cause_withPath (path : String) (error : LoadError) :
    (error.withPath path).cause = error.cause := by
  cases error with
  | unreadable path error => rfl
  | malformed path? text complaint => cases path? <;> rfl
  | unfit path? text misfit => cases path? <;> rfl

end LoadError

namespace Settings

open Toml

theorem path?_of_ofText {text : Text} {error : LoadError} (h : ofText text = .error error)
    (path : String) : (error.withPath path).path? = some path := by
  unfold ofText at h
  split at h
  · obtain rfl := Except.error.inj h
    rfl
  · next entries hread =>
    cases hentries : ofEntries entries with
    | ok settings =>
      rw [hentries] at h
      cases h
    | error misfit =>
      rw [hentries] at h
      obtain rfl := Except.error.inj h
      rfl

theorem ofFile_of_text {path : String} {content : Except FileError ByteArray} {text : Text}
    (h : content.bind textOfBytes = .ok text) :
    ofFile path content = (ofText text).mapError (.withPath path) := by
  rw [ofFile, h]

/-- A text is loaded exactly if it is a document whose entries all set a check, and then it says
what the settings are. Otherwise the first entry that sets none is reported. The entries have the
keys that the statements name at the top, each once and in the order that `arrange` gives them,
and the values of the pairs with these keys. Lines that set distinct checks are such a document,
with any comments. Loading a file is loading its text, and adds the path to an error. -/
theorem ofText_ignores_no_key (text : Text) :
    (∀ settings, ofText text = .ok settings ↔
      ∃ entries, Toml.read text = .ok entries ∧ Says entries settings) ∧
    (∀ entries, Toml.read text = .ok entries →
      (∀ error, ofText text = .error error ↔
        ∃ misfit, FirstMisfit entries misfit ∧ error = .unfit none text misfit) ∧
      ∃ statements, Laid (dropByteOrderMark text) statements ∧
        entries.tops = arrange statements ∧ (names entries.tops).Nodup ∧
        (∀ name, name ∈ names entries.tops ↔
          ∃ s ∈ atTop false statements, name = s.topKey.name) ∧
        ∀ key value mark, (key, some (value, mark)) ∈ entries.tops ↔
          .pair [] key value mark ∈ atTop false statements) ∧
    (∀ given, Written text given → (given.map Prod.fst).Nodup →
      ∃ settings, ofText text = .ok settings ∧ (∀ g ∈ given, settings.get g.1 = g.2) ∧
        ∀ setting, setting ∉ given.map Prod.fst → settings.get setting = false) ∧
    ∀ path content, content.bind textOfBytes = .ok text →
      (∀ settings, ofFile path content = .ok settings ↔ ofText text = .ok settings) ∧
      ∀ error, ofText text = .error error → ∃ attached, ofFile path content = .error attached ∧
        attached.cause = error.cause ∧ attached.path? = some path := by
  refine ⟨fun settings => ofText_eq_ok_iff, fun entries hread => ?_, fun given => Written.ofText,
    fun path content hcontent => ?_⟩
  · obtain ⟨statements, hlaid, htops, hdistinct⟩ := tops_read hread
    refine ⟨fun error => ofText_eq_error_iff hread, statements, hlaid, htops, hdistinct, ?_, ?_⟩
    · intro name
      rw [htops, arrange, mem_names_arrangeFrom]
      simp [names]
    · intro key value mark
      rw [htops, arrange, mem_arrangeFrom_some]
      simp
  · rw [ofFile_of_text hcontent]
    refine ⟨fun settings => mapError_eq_ok_iff, fun error herror => ?_⟩
    refine ⟨error.withPath path, ?_, error.cause_withPath path, path?_of_ofText herror path⟩
    rw [herror]
    rfl

def reopenedText : Text := ['[', 'a', '.', 'b', ']', '\n', '[', 'c', ']', '\n', '[', 'a', ']', '\n']

def reopenedStatements : List Statement :=
  [.header ⟨[⟨['a'], ⟨13, 12⟩⟩], ⟨['b'], ⟨11, 10⟩⟩, false⟩ ⟨14, 9⟩,
    .header ⟨[], ⟨['c'], ⟨7, 6⟩⟩, false⟩ ⟨8, 5⟩, .header ⟨[], ⟨['a'], ⟨3, 2⟩⟩, false⟩ ⟨4, 1⟩]

/-- The first key of this text is `a`, which is unknown, but the error is about `c`: the table `a`
was only met on the way, and its own header comes last. -/
theorem reopened_table_is_reported_last :
    Laid reopenedText reopenedStatements ∧
      (atTop false reopenedStatements).map (fun s => s.topKey.name) = [['a'], ['c'], ['a']] ∧
      (∀ setting : Setting, ['a'] ≠ setting.name.toList) ∧
      ofText reopenedText = .error (.unfit none reopenedText (.unknownKey ⟨['c'], ⟨7, 6⟩⟩)) := by
  have hfirst := @Starts.header reopenedText (reopenedText.drop 5) (reopenedText.drop 6)
    ⟨[⟨['a'], ⟨13, 12⟩⟩], ⟨['b'], ⟨11, 10⟩⟩, false⟩ rfl rfl rfl
  have hsecond := @Starts.header (reopenedText.drop 6) (reopenedText.drop 9)
    (reopenedText.drop 10) ⟨[], ⟨['c'], ⟨7, 6⟩⟩, false⟩ rfl rfl rfl
  have hthird := @Starts.header (reopenedText.drop 10) (reopenedText.drop 13) []
    ⟨[], ⟨['a'], ⟨3, 2⟩⟩, false⟩ rfl rfl rfl
  refine ⟨?_, rfl, ?_, rfl⟩
  · exact .next rfl hfirst (.next rfl hsecond (.next rfl hthird (.done rfl)))
  · intro setting
    cases setting <;> decide

end Settings

end Retouch
