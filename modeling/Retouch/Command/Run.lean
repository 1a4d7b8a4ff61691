import Retouch.Command.Request
import Retouch.Command.Style
import Retouch.Directory
import Retouch.Identifier
import Retouch.LineDiff
import Retouch.Parse.Damage
import Retouch.Parse.Pass
import Retouch.Reprint
import Retouch.Settings.Load
import Retouch.Text.Escape

/-!
# Running a command

A request is first prepared: settings are loaded, names are checked, the file is read, parsed and
reprinted, and the result is validated. Nothing is shown or written before all of this has
succeeded. The parser and the operations on files are parameters.
-/

namespace Retouch.Command

/-- Why a request failed. -/
inductive Failure where
  | settings (error : LoadError)
  | badName (option name : String) (error : IdentifierError)
  | unreadable (file : String) (error : FileError)
  | rejected (fault : Fault)
  | damaged (file : String) (damage : Parse.Damage)
  | unwritable (error : WriteError)

namespace Failure

def message : Failure → String
  | settings error => error.message
  | badName option name error =>
    s!"--{option} is not a Rust identifier ({name}): {error.message}"
  | unreadable file _ => s!"failed to read {file}"
  | rejected fault => fault.message
  | damaged file _ => s!"reprinted {file} does not parse"
  | unwritable error => error.message

def cause? : Failure → Option String
  | settings error => some error.cause
  | badName .. => none
  | unreadable _ error => some error.message
  | rejected _ => none
  | damaged _ damage => some damage.message
  | unwritable error => error.cause?

def indented (text : String) : String := "    " ++ text.replace "\n" "\n    "

/-- The message, and under it the cause with every line indented. -/
def report (failure : Failure) : String :=
  let cause := match failure.cause? with
    | some cause => s!"\n\nCaused by:\n{indented cause}"
    | none => ""
  s!"Error: {failure.message}{cause}\n"

end Failure

/-- A text and what it is to become. -/
structure Draft where
  source : Text
  reprinted : Text
deriving DecidableEq

abbrev ReadFile := String → Except FileError ByteArray

def loadSettings (read : ReadFile) : Option String → Except Failure Settings
  | none => .ok .lenient
  | some path => (Settings.ofFile path (read path)).mapError .settings

/-- A rename needs identifiers. They are used as they are given. -/
def checkNames : Action → Except Failure Unit
  | .rename old new => do
    let _ ← (readIdentifier old.toList).mapError (.badName "from" old)
    let _ ← (readIdentifier new.toList).mapError (.badName "to" new)
  | .annotate .. => .ok ()

def readSource (read : ReadFile) (file : String) : Except Failure Text :=
  ((read file).bind textOfBytes).mapError (.unreadable file)

def Action.pass (source : Text) : Action → Parse.Pass
  | rename old new => .rename source old.toList new.toList
  | annotate item name text placement =>
    .annotate source item name.toList (unescape text.toList) placement

def Failure.ofReprint : ReprintError Empty → Failure
  | .query error => nomatch error
  | .rejected fault => .rejected fault

def reprintSource (parse : Text → Parse.Tree) (settings : Settings) (action : Action)
    (source : Text) : Except Failure Text :=
  let visitor : Visitor Parse.Node Unit Empty := (action.pass source).visitor
  (settings.reprint? visitor (parse source) source ()).outcome.mapError .ofReprint

def Request.prepare (parse : Text → Parse.Tree) (read : ReadFile) (r : Request) :
    Except Failure Draft := do
  let settings ← loadSettings read r.settings
  checkNames r.action
  let source ← readSource read r.file
  let reprinted ← reprintSource parse settings r.action source
  if r.output.validate then
    (Parse.validateReprint parse source reprinted).mapError (.damaged r.file)
  return ⟨source, reprinted⟩

/-- A line as a diff shows it, with its sign. The last line of a text may need an end. -/
def signedLine (sign : Char) (line : Text) : String :=
  let isEnded := line.getLast? == some '\n' || line.getLast? == some '\r'
  String.ofList (sign :: line ++ if isEnded then [] else ['\n'])

def renderChange (colours : Bool) : Change Text → String
  | .keep line => signedLine ' ' line
  | .delete line => paint colours .red (signedLine '-' line)
  | .insert line => paint colours .green (signedLine '+' line)

def renderDiff (colours : Bool) (file : String) (draft : Draft) : String :=
  paint colours .dimmed s!"--- {file} (original)" ++ "\n" ++
    paint colours .dimmed s!"+++ {file} (reprinted)" ++ "\n" ++
    String.join ((lineDiff draft.source draft.reprinted).map (renderChange colours))

def renderWrite (colours : Bool) : WriteResult → String
  | .written file _ => paint colours .green "✓" ++ s!" {file}\n"
  | .unchanged file => paint colours .yellow "⊙" ++ s!" {file} (unchanged)\n"

/-- What a run leaves on the terminal. -/
structure Outcome where
  exit : Nat
  stdout : String
  stderr : String
deriving DecidableEq

namespace Outcome

def success (stdout : String) (stderr : String) : Outcome := ⟨0, stdout, stderr⟩

def failed (stdout : String) (failure : Failure) : Outcome := ⟨1, stdout, failure.report⟩

def versionText : String := "reprint 0.1.0\n"

def usageText : String :=
  "Usage: reprint [OPTIONS] <COMMAND>\n\n" ++
    "Commands:\n" ++
    "  rename    Rename every identifier spelled exactly like --from\n" ++
    "  annotate  Insert text before (or after) a named item\n" ++
    "  help      Print this message or the help of the given subcommand(s)\n\n" ++
    "Options:\n" ++
    "  -c, --config <CONFIG>  Reprint settings (TOML)\n" ++
    "  -h, --help             Print help\n" ++
    "  -V, --version          Print version\n"

def version : Outcome := success versionText ""

def help : Outcome := success usageText ""

def refused : Outcome := ⟨2, "", usageText⟩

end Outcome

/-- What is printed for a draft, when `written` came of writing it. -/
def Request.conclude (r : Request) (colours : Bool) (draft : Draft)
    (written : Option (Except WriteError WriteResult)) : Outcome :=
  let diff := if r.output.diff then renderDiff colours r.file draft else ""
  match written with
  | some (.ok result) => .success diff (renderWrite colours result)
  | some (.error error) => .failed diff (.unwritable error)
  | none => .success (if r.output.diff then diff else String.ofList draft.reprinted) ""

section

variable {m : Type → Type} [Monad m]

def Request.paths (r : Request) : List String := r.settings.toList ++ [r.file]

def Request.perform (files : FileOperations m) (parse : Text → Parse.Tree) (colours : Bool)
    (r : Request) : m Outcome := do
  let read ← files.readAll r.paths
  match r.prepare parse read with
  | .error failure => return .failed "" failure
  | .ok draft =>
    if r.output.write then
      let result ← (files.write r.file draft.reprinted).run
      return r.conclude colours draft (some result)
    else return r.conclude colours draft none

/-- Does what a command line asks for. -/
def perform (files : FileOperations m) (parse : Text → Parse.Tree) (colours : Bool)
    (arguments : List String) : m Outcome :=
  match Invocation.ofArguments arguments with
  | .version => return .version
  | .help => return .help
  | .refused => return .refused
  | .request r => r.perform files parse colours

end

def Request.run (parse : Text → Parse.Tree) (colours : Bool) (directory : Directory)
    (r : Request) : Outcome × Directory :=
  (r.perform Directory.operations parse colours).run directory

/-- Runs a command line in a directory. -/
def run (parse : Text → Parse.Tree) (colours : Bool) (directory : Directory)
    (arguments : List String) : Outcome × Directory :=
  (perform Directory.operations parse colours arguments).run directory

end Retouch.Command
