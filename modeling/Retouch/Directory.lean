import Retouch.FileOperations

/-!
# Directories

A directory is a place in a file tree. Paths that do not start at the root of the tree start there.
A path is resolved one component at a time, so it fails at the first component that is missing or
is no directory. It can lead out of the directory and back again.
-/

namespace Retouch

structure Directory where
  root : FileTree
  names : List String

namespace Directory

def start (d : Directory) (path : String) : List String :=
  if Path.isAbsolute path then [] else d.names

def resolve (d : Directory) (path : String) : Except FileError (List String) :=
  if path = "" then .error .notFound else d.root.follow (d.start path) (Path.components path)

/-- The file that a path leads to, by its names and its content. -/
def fileAt (d : Directory) (path : String) : Except FileError (List String × ByteArray) := do
  let names ← d.resolve path
  match d.root.entryAt? names with
  | none => .error .notFound
  | some (.directory _) => .error .isADirectory
  | some (.file bytes) => .ok (names, bytes)

def directoryAt (d : Directory) (path : String) : Except FileError (List String × FileTree) := do
  let names ← d.resolve path
  match d.root.entryAt? names with
  | none => .error .notFound
  | some (.directory entries) => .ok (names, entries)
  | some (.file _) => .error .notADirectory

def read (d : Directory) (path : String) : Except FileError ByteArray :=
  (d.fileAt path).map Prod.snd

def put (d : Directory) (names : List String) (bytes : ByteArray) : Directory :=
  { d with root := d.root.put names (some bytes) }

def create (d : Directory) (path : String) : Except FileError String × Directory :=
  match d.directoryAt path with
  | .error error => (.error error, d)
  | .ok (names, entries) =>
    let name := entries.freshName
    (.ok (path ++ "/" ++ name), d.put (names ++ [name]) .empty)

def fill (d : Directory) (path : String) (bytes : ByteArray) :
    Except FileError Unit × Directory :=
  match d.fileAt path with
  | .error error => (.error error, d)
  | .ok (names, _) => (.ok (), d.put names bytes)

def remove (d : Directory) (path : String) : Directory :=
  match d.fileAt path with
  | .error _ => d
  | .ok (names, _) => { d with root := d.root.remove names }

/-- Where a file can be moved to. A directory is not replaced. -/
def targetAt (d : Directory) (path : String) : Except FileError (List String) := do
  let names ← d.resolve path
  match d.root.entryAt? names with
  | some (.directory _) => .error .isADirectory
  | _ => .ok names

def move (d : Directory) (source target : String) : Except FileError Unit × Directory :=
  match d.fileAt source, d.targetAt target with
  | .error error, _ => (.error error, d)
  | _, .error error => (.error error, d)
  | .ok (_, bytes), .ok names => (.ok (), (d.remove source).put names bytes)

def operations : FileOperations (StateM Directory) where
  read path := ExceptT.mk fun d => (d.read path, d)
  create path := ExceptT.mk fun d => d.create path
  fill path bytes := ExceptT.mk fun d => d.fill path bytes
  move source target := ExceptT.mk fun d => d.move source target
  remove path := modify fun d => d.remove path

def write (d : Directory) (path : String) (text : Text) :
    Except WriteError WriteResult × Directory :=
  (operations.write path text).run.run d

/-- A directory with the listed files, below two directories that hold nothing else. -/
def ofListing (files : List (String × Option ByteArray)) : Directory where
  root := [("tmp", .directory [("work", .directory (FileTree.ofListing files))])]
  names := ["tmp", "work"]

def listing (d : Directory) : List (String × Option ByteArray) :=
  match d.root.entryAt? d.names with
  | some (.directory entries) => FileTree.listingBelow "" entries
  | _ => []

end Directory

end Retouch
