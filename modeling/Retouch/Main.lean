import Retouch.Command.Run
import Retouch.Parse.TreeFile

/-!
# The command `reprint`

Runs a command line on the files of the system. The parser is a program of its own: its trees are
read from the file that the variable `REPRINT_TREES` names.
-/

namespace Retouch.Command

def fileErrorOf : IO.Error → FileError
  | .noFileOrDirectory .. | .noSuchThing .. => .notFound
  | .inappropriateType _ code _ => if code = 20 then .notADirectory else .isADirectory
  | _ => .notADirectory

def attempt {α : Type} (action : IO α) : ExceptT FileError IO α :=
  ExceptT.mk (try Except.ok <$> action catch error => return .error (fileErrorOf error))

def systemFiles : FileOperations IO where
  read path := attempt (IO.FS.readBinFile path)
  create path := attempt do
    let number ← IO.rand 0 0xffffffff
    let fresh := s!"{path}/.tmp{number}"
    IO.FS.withFile fresh .writeNew fun _ => return fresh
  fill path bytes := attempt (IO.FS.writeBinFile path bytes)
  move source target := attempt (IO.FS.rename source target)
  remove path := discard (attempt (IO.FS.removeFile path)).run

/-- The parser whose trees are in the tree file. A text that it does not know has no nodes. -/
def loadParser : IO (Text → Parse.Tree) := do
  let unknown : Parse.Tree := .node ⟨"source_file", none, 0, 0, ⟨0, 0⟩, ⟨0, 0⟩, .sound⟩ []
  let file ← match ← IO.getEnv "REPRINT_TREES" with
    | some path => (systemFiles.read path).run
    | none => pure (.error .notFound)
  match file.bind textOfBytes with
  | .ok text =>
    let trees := (Parse.readTreeFile text).getD []
    return fun source => (trees.lookup source).getD unknown
  | .error _ => return fun _ => unknown

def wantsColours : IO Bool := do
  match ← IO.getEnv "CLICOLOR_FORCE" with
  | some value => return value != "0"
  | none => return (← (← IO.getStdout).isTty) && (← IO.getEnv "NO_COLOR").isNone

def start (arguments : List String) : IO UInt32 := do
  let outcome ← perform systemFiles (← loadParser) (← wantsColours) arguments
  IO.print outcome.stdout
  IO.eprint outcome.stderr
  return outcome.exit.toUInt32

end Retouch.Command

def main (arguments : List String) : IO UInt32 := Retouch.Command.start arguments
