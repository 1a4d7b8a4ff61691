import Retouch.Path

/-!
# File trees

A file tree is a directory with everything below it. The names of a file or directory are those of
the directories on the way to it, from the root of the tree, and its own.
-/

namespace Retouch

inductive Entry where
  | file (bytes : ByteArray)
  | directory (entries : List (String × Entry))

abbrev FileTree := List (String × Entry)

inductive FileError where
  | notFound
  | notADirectory
  | isADirectory
  | notUtf8
deriving DecidableEq

def FileError.message : FileError → String
  | notFound => "No such file or directory (os error 2)"
  | notADirectory => "Not a directory (os error 20)"
  | isADirectory => "Is a directory (os error 21)"
  | notUtf8 => "stream did not contain valid UTF-8"

namespace FileTree

def entryAt? : FileTree → List String → Option Entry
  | entries, [] => some (.directory entries)
  | entries, name :: names =>
    match entries.lookup name with
    | none => none
    | some (.file bytes) => if names.isEmpty then some (.file bytes) else none
    | some (.directory entries) => entryAt? entries names

def setEntry (name : String) (entry : Entry) (entries : FileTree) : FileTree :=
  if entries.any (·.1 == name) then
    entries.map fun old => if old.1 == name then (name, entry) else old
  else entries ++ [(name, entry)]

/-- Puts a file, or with no content a directory, where the names lead. Missing directories on the
way are made. -/
def put : List String → Option ByteArray → FileTree → FileTree
  | [], _, entries => entries
  | [name], some bytes, entries => setEntry name (.file bytes) entries
  | name :: names, content, entries =>
    let inner :=
      match entries.lookup name with
      | some (.directory inner) => inner
      | _ => []
    setEntry name (.directory (put names content inner)) entries

def remove : List String → FileTree → FileTree
  | [], entries => entries
  | [name], entries => entries.filter fun entry => entry.1 != name
  | name :: names, entries =>
    match entries.lookup name with
    | some (.directory inner) => setEntry name (.directory (remove names inner)) entries
    | _ => entries

/-- A name that no entry has, since it is longer than all of them. -/
def freshName (entries : FileTree) : String :=
  let letters := entries.flatMap fun entry => entry.1.toList
  String.ofList ('.' :: 't' :: 'm' :: 'p' :: List.replicate letters.length 'x')

/-- Where one component of a path leads from a directory. The root is its own parent. -/
def stepFrom (here : List String) (name : String) : List String :=
  if name = "" ∨ name = "." then here
  else if name = ".." then here.dropLast
  else here ++ [name]

/-- Where path components lead, whether or not the last one exists. -/
def follow (root : FileTree) : List String → List String → Except FileError (List String)
  | here, [] => .ok here
  | here, name :: names =>
    match root.entryAt? here with
    | none => .error .notFound
    | some (.file _) => .error .notADirectory
    | some (.directory _) => root.follow (stepFrom here name) names

mutual

def entryListing (path : String) : Entry → List (String × Option ByteArray)
  | .file bytes => [(path, some bytes)]
  | .directory entries => (path, none) :: listingBelow (path ++ "/") entries

def listingBelow (stem : String) : List (String × Entry) → List (String × Option ByteArray)
  | [] => []
  | (name, entry) :: entries => entryListing (stem ++ name) entry ++ listingBelow stem entries

end

def install (content : Option ByteArray) : FileTree → List String → List String → FileTree
  | root, _, [] => root
  | root, here, name :: names =>
    if name = "" ∨ name = "." then install content root here names
    else if name = ".." then install content root here.dropLast names
    else if names.isEmpty then root.put (here ++ [name]) content
    else install content (root.put (here ++ [name]) none) (here ++ [name]) names

def ofListing (files : List (String × Option ByteArray)) : FileTree :=
  files.foldl (fun root (path, content) => install content root [] (Path.components path)) []

end FileTree

end Retouch
