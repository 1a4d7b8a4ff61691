import Retouch.Parse.Table
import Retouch.Text.Digits
import Retouch.Text.Lines

/-!
# Tree files

The trees of a parser that runs elsewhere, written to a file. An entry is a line `text n`, the `n`
characters of a text, a newline, and a line for each row of the table of its tree, up to an empty
line. The fields of a row are separated by tabs.
-/

namespace Retouch.Parse

def number? (field : Text) : Option Nat :=
  if !field.isEmpty && field.all Char.isDigit then some (numeral 10 field) else none

/-- The pieces of a text between the characters `separator`. -/
def splitAtEach (separator : Char) : Text → List Text
  | [] => [[]]
  | c :: text =>
    if c = separator then [] :: splitAtEach separator text
    else extendFirst c (splitAtEach separator text)

def health? (field : Text) : Option Health :=
  match number? field with
  | some 0 => some .sound
  | some 1 => some .error
  | some 2 => some .missing
  | _ => none

def row? (line : Text) : Option Row := do
  match splitAtEach '\t' line with
  | [kind, field, startByte, stopByte, row₁, column₁, row₂, column₂, health, children] =>
    let node : Node :=
      { kind := String.ofList kind
        field := if field.isEmpty then none else some (String.ofList field)
        startByte := ← number? startByte
        stopByte := ← number? stopByte
        startPoint := ⟨← number? row₁, ← number? column₁⟩
        stopPoint := ⟨← number? row₂, ← number? column₂⟩
        health := ← health? health }
    return ⟨node, ← number? children⟩
  | _ => none

/-- The rows up to an empty line, and the text after that line. -/
def rows? : Nat → Text → Option (List Row × Text)
  | 0, _ => none
  | fuel + 1, text =>
    let line := text.takeWhile (· != '\n')
    let rest := (text.dropWhile (· != '\n')).tail
    if line.isEmpty then some ([], rest)
    else do
      let (rows, rest) ← rows? fuel rest
      return ((← row? line) :: rows, rest)

def entry? : Text → Option ((Text × Tree) × Text)
  | 't' :: 'e' :: 'x' :: 't' :: ' ' :: file => do
    let length ← number? (file.takeWhile (· != '\n'))
    let file := (file.dropWhile (· != '\n')).tail
    let (rows, rest) ← rows? (file.length + 1) (file.drop (length + 1))
    return ((file.take length, ← treeOfRows? rows), rest)
  | _ => none

def entries? : Nat → Text → Option (List (Text × Tree))
  | _, [] => some []
  | 0, _ => none
  | fuel + 1, file => do
    let (entry, rest) ← entry? file
    return entry :: (← entries? fuel rest)

/-- The texts of a tree file with their trees. -/
def readTreeFile (file : Text) : Option (List (Text × Tree)) := entries? file.length file

end Retouch.Parse
