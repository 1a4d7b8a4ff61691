import Retouch.FileOperations
import Retouch.Settings
import Retouch.Toml.Diagnosis
import Retouch.Toml.Report

/-!
# Loading settings

Settings are a TOML document whose keys are the names of the checks and whose values are booleans.
A key that is absent leaves its check off. The first key that is unknown or has another value is
reported, with its place in the document.
-/

namespace Retouch

/-- The checks that a document can name. -/
inductive Setting where
  | overlapping
  | outOfBounds
deriving DecidableEq

namespace Setting

def name : Setting → String
  | overlapping => "reject_overlapping"
  | outOfBounds => "reject_out_of_bounds"

def ofName? (name : Text) : Option Setting :=
  [overlapping, outOfBounds].find? fun setting => setting.name.toList == name

end Setting

def Settings.set (settings : Settings) (setting : Setting) (b : Bool) : Settings :=
  match setting with
  | .overlapping => { settings with rejectOverlapping := b }
  | .outOfBounds => { settings with rejectOutOfBounds := b }

/-- Why a document does not say what the settings are. -/
inductive Misfit where
  | unknownKey (key : Toml.Key)
  | notBoolean (value : Toml.Value) (mark : Toml.Mark)
deriving DecidableEq

namespace Misfit

def mark : Misfit → Toml.Mark
  | unknownKey key => key.mark
  | notBoolean _ mark => mark

def message : Misfit → String
  | unknownKey key =>
    s!"unknown field `{String.ofList key.name}`, expected " ++
      s!"`{Setting.overlapping.name}` or `{Setting.outOfBounds.name}`"
  | notBoolean value _ => s!"invalid type: {value.describe}, expected a boolean"

end Misfit

namespace Settings

/-- Takes up one entry of a document. -/
def addEntry (settings : Settings) (entry : Toml.Key × Toml.Item) : Except Misfit Settings :=
  match Setting.ofName? entry.1.name with
  | none => .error (.unknownKey entry.1)
  | some setting =>
    match entry.2.toValue with
    | .boolean b => .ok (settings.set setting b)
    | value => .error (.notBoolean value entry.2.mark)

def ofEntries (entries : Toml.Entries) : Except Misfit Settings :=
  entries.foldlM addEntry lenient

end Settings

/-- Why settings could not be loaded. `path` is the file they come from, if they come from one. -/
inductive LoadError where
  | unreadable (path : String) (error : FileError)
  | malformed (path : Option String) (text : Text) (complaint : Toml.Complaint)
  | unfit (path : Option String) (text : Text) (misfit : Misfit)

namespace LoadError

/-- The error underneath. -/
def cause : LoadError → String
  | unreadable _ error => error.message
  | malformed _ text complaint => Toml.report text complaint.mark complaint.fault.message
  | unfit _ text misfit => Toml.report text misfit.mark misfit.message

def title : LoadError → String
  | unreadable path _ => s!"failed to read reprint config from {path}"
  | malformed path .. | unfit path .. =>
    match path with
    | some path => s!"failed to parse reprint config TOML ({path})"
    | none => "failed to parse reprint config TOML"

def message (error : LoadError) : String := s!"{error.title}: {error.cause}"

def withPath (path : String) : LoadError → LoadError
  | malformed none text complaint => .malformed (some path) text complaint
  | unfit none text misfit => .unfit (some path) text misfit
  | error => error

end LoadError

namespace Settings

def ofText (text : Text) : Except LoadError Settings :=
  match Toml.read text with
  | .error rest => .error (.malformed none text (Toml.diagnose text rest))
  | .ok entries => (ofEntries entries).mapError (.unfit none text)

/-- `content` is what was found at `path`. -/
def ofFile (path : String) (content : Except FileError ByteArray) : Except LoadError Settings :=
  match content.bind textOfBytes with
  | .error error => .error (.unreadable path error)
  | .ok text => (ofText text).mapError (.withPath path)

end Settings

end Retouch
