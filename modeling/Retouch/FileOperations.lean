import Retouch.FileTree
import Retouch.Text.Bytes

/-!
# What is done with files

The operations on files are a parameter of everything that reads or writes one, with the monad that
carries them out. A file is replaced in one step: its new content is first written to a fresh file
beside it, and that file is then moved in its place.
-/

namespace Retouch

def textOfBytes (bytes : ByteArray) : Except FileError Text :=
  match decodeUtf8? bytes with
  | some text => .ok text
  | none => .error .notUtf8

inductive WriteResult where
  | written (file : String) (bytes : Nat)
  | unchanged (file : String)
deriving DecidableEq

inductive WriteError where
  | noParent (path : String)
  | file (error : FileError)
deriving DecidableEq

namespace WriteError

def message : WriteError → String
  | noParent path => s!"Path has no parent directory: {path}"
  | file error => s!"File I/O error: {error.message}"

def cause? : WriteError → Option String
  | noParent _ => none
  | file error => some error.message

end WriteError

/-- Operations on files that are named by paths. `create` makes an empty file with a fresh name in
a directory and answers with its path. -/
structure FileOperations (m : Type → Type) where
  read : String → ExceptT FileError m ByteArray
  create : String → ExceptT FileError m String
  fill : String → ByteArray → ExceptT FileError m Unit
  move : String → String → ExceptT FileError m Unit
  remove : String → m Unit

namespace FileOperations

variable {m : Type → Type} [Monad m]

/-- What is left of the fresh file is removed if it does not get where it belongs. -/
def replace (files : FileOperations m) (path : String) (bytes : ByteArray) :
    ExceptT WriteError m Unit := do
  match Path.parent? path with
  | none => throw (.noParent path)
  | some parent =>
    let fresh ← (files.create parent).adapt .file
    let filled : ExceptT FileError m Unit := do
      files.fill fresh bytes
      files.move fresh path
    tryCatch (filled.adapt .file) fun error => do
      files.remove fresh
      throw error

/-- Gives a file the content `text`. Only a file that exists is written, and only if its content
differs. -/
def write (files : FileOperations m) (path : String) (text : Text) :
    ExceptT WriteError m WriteResult := do
  let bytes := encodeUtf8 text
  let old ← (files.read path).adapt .file
  if old.data = bytes.data then return .unchanged path
  files.replace path bytes
  return .written path bytes.size

def readAll (files : FileOperations m) : List String → m (String → Except FileError ByteArray)
  | [] => return fun _ => .error .notFound
  | path :: paths => do
    let content ← (files.read path).run
    let others ← files.readAll paths
    return fun other => if other = path then content else others other

end FileOperations

end Retouch
