import Retouch.Toml.Value

/-!
# TOML documents

A document is a table of entries in the order of their keys, each with the place in the text that
a message would mark. A table may be opened by a header, on the way of another header, or by a
dotted key, and the way it was opened decides how it may be extended later.
-/

namespace Retouch.Toml

/-- A piece of a text, by the number of characters left at its start and at its end. -/
structure Mark where
  start : Nat
  stop : Nat
deriving DecidableEq

namespace Mark

def before (mark : Mark) : Mark := ⟨mark.start, mark.start⟩

def after (mark : Mark) : Mark := ⟨mark.stop, mark.stop⟩

end Mark

structure Key where
  name : Text
  mark : Mark
deriving DecidableEq

inductive Origin where
  | header
  | onTheWay
  | dottedKey
deriving DecidableEq

inductive Item where
  | value (value : Value) (mark : Mark)
  | table (origin : Origin) (mark : Mark) (entries : List (Key × Item))
  /-- A list of tables, of which only the last can be extended. Its mark reaches from the first
  header to the last. -/
  | tables (mark : Mark) (last : List (Key × Item))

abbrev Entries := List (Key × Item)

namespace Item

def mark : Item → Mark
  | value _ mark => mark
  | table _ mark _ => mark
  | tables mark _ => mark

def toValue : Item → Value
  | .value v _ => v
  | .table .. => .table
  | .tables .. => .array

end Item

namespace Entries

def find? (entries : Entries) (name : Text) : Option Item :=
  (List.find? (fun entry => entry.1.name == name) entries).map Prod.snd

def erase (entries : Entries) (name : Text) : Entries :=
  entries.filter fun entry => entry.1.name != name

def update (entries : Entries) (name : Text) (item : Item) : Entries :=
  entries.map fun entry => if entry.1.name == name then (entry.1, item) else entry

variable {β : Type}

/-- Changes the table that a path of keys leads to, opening the tables that are missing. A path
of dotted keys may not enter a table that has a header. -/
def alter (dotted : Bool) (change : Origin → Entries → Option (β × Entries)) :
    List Key → Origin → Entries → Option (β × Entries)
  | [], origin, entries => change origin entries
  | key :: path, _, entries =>
    match entries.find? key.name with
    | none => do
      let origin : Origin := if dotted then .dottedKey else .onTheWay
      let (result, inner) ← alter dotted change path origin []
      return (result, entries ++ [(key, .table origin key.mark inner)])
    | some (.value ..) => none
    | some (.tables mark last) => do
      let (result, last) ← alter dotted change path .header last
      return (result, entries.update key.name (.tables mark last))
    | some (.table origin mark inner) =>
      if dotted && origin == .header then none
      else do
        let (result, inner) ← alter dotted change path origin inner
        return (result, entries.update key.name (.table origin mark inner))

/-- Adds an entry under a key, which is dotted if `path` is not empty. -/
def assign (entries : Entries) (path : List Key) (key : Key) (item : Item) : Option Entries := do
  let dotted := !path.isEmpty
  let ((), entries) ← alter dotted (fun origin entries =>
    if (origin == .dottedKey) == dotted && (entries.find? key.name).isNone then
      some ((), entries ++ [(key, item)])
    else none) path .header entries
  return entries

end Entries

structure Header where
  path : List Key
  key : Key
  isList : Bool

/-- The entries under one header. The entries before the first header have none. -/
structure Section where
  header : Option Header
  /-- The place of the header. -/
  mark : Mark
  entries : Entries

def Section.assign (s : Section) (path : List Key) (key : Key) (item : Item) : Option Section := do
  return { s with entries := ← s.entries.assign path key item }

/-- Puts a finished section in its place. -/
def Section.finish (s : Section) (root : Entries) : Option Entries := do
  match s.header with
  | none => return s.entries
  | some header =>
    let ((), root) ← root.alter false (fun _ entries =>
      match header.isList, entries.find? header.key.name with
      | false, none =>
        some ((), entries ++ [(header.key, .table .header s.mark s.entries)])
      | true, none => some ((), entries ++ [(header.key, .tables s.mark s.entries)])
      | true, some (.tables mark _) =>
        some ((), entries.update header.key.name (.tables ⟨mark.start, s.mark.stop⟩ s.entries))
      | _, _ => none) header.path .header
    return root

/-- Starts the section of a header. A table that was only met on the way of another header is
taken up again, together with what it holds. -/
def Section.start (header : Header) (mark : Mark) (root : Entries) : Option (Section × Entries) :=
  root.alter false (fun _ entries =>
    match header.isList, entries.find? header.key.name with
    | true, _ | false, none => some (⟨some header, mark, []⟩, entries)
    | false, some (.table .onTheWay _ inner) =>
      some (⟨some header, mark, inner⟩, entries.erase header.key.name)
    | _, _ => none) header.path .header

end Retouch.Toml
