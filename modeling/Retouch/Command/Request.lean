import Retouch.Command.Arguments
import Retouch.Edit

/-!
# Requests

What a command line asks for: to rename or to annotate in a file, or to show the version or help.
A command line is refused if something is unknown, missing, repeated or too much.
-/

namespace Retouch.Command

inductive Action where
  | rename (old new : String)
  | annotate (item name text : String) (placement : Placement)
deriving DecidableEq

structure Output where
  /-- Show a line diff. -/
  diff : Bool
  /-- Write the result to the file. -/
  write : Bool
  /-- Refuse a result that has more syntax errors than the file. -/
  validate : Bool
deriving DecidableEq

structure Request where
  /-- The file with the settings. -/
  settings : Option String
  file : String
  action : Action
  output : Output
deriving DecidableEq

inductive Invocation where
  | version
  | help
  | refused
  | request (request : Request)
deriving DecidableEq

inductive Flag where
  | version
  | help
  | diff
  | write
  | noValidate
  | after
deriving DecidableEq

inductive ValueOption where
  | config
  | source
  | target
  | item
  | name
  | text
deriving DecidableEq

inductive Verb where
  | rename
  | annotate
deriving DecidableEq

/-- Options and flags that can stand before the verb. -/
def mainGrammar : Grammar Flag ValueOption where
  long
    | "config" => some (.option .config)
    | "version" => some (.flag .version)
    | "help" => some (.flag .help)
    | _ => none
  short
    | 'c' => some (.option .config)
    | 'V' => some (.flag .version)
    | 'h' => some (.flag .help)
    | _ => none

/-- Options and flags that can stand after the verb. -/
def verbGrammar (verb : Verb) : Grammar Flag ValueOption where
  long name :=
    match verb, name with
    | _, "config" => some (.option .config)
    | _, "help" => some (.flag .help)
    | _, "diff" => some (.flag .diff)
    | _, "write" => some (.flag .write)
    | _, "no-validate" => some (.flag .noValidate)
    | .rename, "from" => some (.option .source)
    | .rename, "to" => some (.option .target)
    | .annotate, "item" => some (.option .item)
    | .annotate, "name" => some (.option .name)
    | .annotate, "text" => some (.option .text)
    | .annotate, "after" => some (.flag .after)
    | _, _ => none
  short
    | 'c' => some (.option .config)
    | 'h' => some (.flag .help)
    | 'd' => some (.flag .diff)
    | 'w' => some (.flag .write)
    | _ => none

/-- The arguments that have been accepted. -/
structure Accepted where
  flags : List Flag := []
  values : List (ValueOption × String) := []
  file : Option String := none

namespace Accepted

def value? (a : Accepted) (o : ValueOption) : Option String := a.values.lookup o

def has (a : Accepted) (f : Flag) : Bool := a.flags.contains f

end Accepted

/-- Accepts arguments in order, as long as none settles the invocation. Nothing may be repeated,
and no path may be empty. -/
def accept : List (Argument Flag ValueOption) → Accepted → Except Invocation Accepted
  | [], a => .ok a
  | .flag f :: arguments, a =>
    if f = .version then .error .version
    else if f = .help then .error .help
    else if a.has f then .error .refused
    else accept arguments { a with flags := f :: a.flags }
  | .option o v :: arguments, a =>
    if (a.value? o).isSome || o == .config && v.isEmpty then .error .refused
    else accept arguments { a with values := (o, v) :: a.values }
  | .word w :: arguments, a =>
    if a.file.isSome || w.isEmpty then .error .refused
    else accept arguments { a with file := some w }

def acceptReading (r : Reading Flag ValueOption) : Except Invocation (Accepted × List String) := do
  let a ← accept r.arguments {}
  match r.rest with
  | some rest => return (a, rest)
  | none => throw .refused

def action? (verb : Verb) (a : Accepted) : Option Action :=
  match verb with
  | .rename => do return .rename (← a.value? .source) (← a.value? .target)
  | .annotate => do
    return .annotate (← a.value? .item) (← a.value? .name) (← a.value? .text)
      (if a.has .after then .after else .before)

/-- Settings named after the verb win over those named before it. -/
def requestOf? (verb : Verb) (before after : Accepted) : Option Request := do
  return {
    settings := (after.value? .config).or (before.value? .config)
    file := ← after.file
    action := ← action? verb after
    output := ⟨after.has .diff, after.has .write, !after.has .noValidate⟩ }

def readVerb (verb : Verb) (before : Accepted) (arguments : List String) :
    Except Invocation Request := do
  let (after, _) ← acceptReading (readArguments (verbGrammar verb) false arguments)
  match requestOf? verb before after with
  | some request => return request
  | none => throw .refused

def isHelpTopic : List String → Bool
  | [] | ["rename"] | ["annotate"] | ["help"] => true
  | _ => false

def readInvocation (arguments : List String) : Except Invocation Request := do
  let (before, rest) ← acceptReading (readArguments mainGrammar true arguments)
  match rest with
  | "rename" :: arguments => readVerb .rename before arguments
  | "annotate" :: arguments => readVerb .annotate before arguments
  | "help" :: topic => throw (if isHelpTopic topic then .help else .refused)
  | _ => throw .refused

def Invocation.ofArguments (arguments : List String) : Invocation :=
  match readInvocation arguments with
  | .ok asked => .request asked
  | .error invocation => invocation

end Retouch.Command
