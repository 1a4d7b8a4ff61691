/-!
# Paths

A path is read as the pieces between its slashes. A path that starts at the root starts with a
slash, so its first piece is empty.
-/

namespace Retouch.Path

def components (path : String) : List String := (path.toList.splitOn '/').map String.ofList

def isAbsolute (path : String) : Bool := path.toList.head? == some '/'

/-- Components that lead somewhere else than to where they start. -/
def isStep (name : String) : Bool := name != "" && name != "."

/-- The directory of the last name of a path. A bare name is in the working directory. A path
without names is in none. -/
def parent? (path : String) : Option String :=
  match components path with
  | [] => none
  | "" :: names =>
    let steps := names.filter isStep
    if steps.isEmpty then none else some ("/" ++ "/".intercalate steps.dropLast)
  | first :: names =>
    let front := (first :: names.filter isStep).dropLast
    some (if front.isEmpty then "." else "/".intercalate front)

end Retouch.Path
