import Retouch.Toml.Document
import Retouch.Toml.Quotation

/-!
# The pieces of a text

Any text is cut into pieces as a TOML document is, so that it can be said where a text stops being
a document. A string that is not closed ends with its line, or with the text if it may have many
lines.
-/

namespace Retouch.Toml

inductive Piece.Kind where
  | blanks
  | newline
  | comment
  | dot
  | equals
  | comma
  | openBracket
  | closeBracket
  | openBrace
  | closeBrace
  | string
  | word
  | ending
deriving DecidableEq

structure Piece where
  kind : Piece.Kind
  text : Text
  mark : Mark

namespace Piece

def symbol? (c : Char) : Option Kind :=
  [('.', Kind.dot), ('=', .equals), (',', .comma), ('[', .openBracket), (']', .closeBracket),
   ('\x7b', .openBrace), ('\x7d', .closeBrace)].lookup c

def isLineEnd (c : Char) : Bool := c == '\n' || c == '\r'

/-- Characters of a word. A quote inside a word belongs to it. -/
def isWordChar (c : Char) : Bool :=
  !isBlank c && !isLineEnd c && c != '#' && (symbol? c).isNone

def stringLength (quote : Char) : Text → Bool → Nat
  | [], _ => 0
  | c :: text, escaped =>
    if c = '\n' then 0
    else if escaped && (c = '\\' || c = quote) then stringLength quote text false + 1
    else if c = quote then 1
    else stringLength quote text (quote = '"' && c = '\\') + 1

def stringLinesLength (quote : Char) : Text → Bool → Nat
  | [], _ => 0
  | c :: text, escaped =>
    if escaped && (c = '\\' || c = quote) then stringLinesLength quote text false + 1
    else
      match closing? quote (c :: text) with
      | some (extra, _) => extra.length + 3
      | none => stringLinesLength quote text (quote = '"' && c = '\\') + 1

/-- The kind of the piece that starts with `c`, and its length without `c`. -/
def measure (c : Char) (text : Text) : Kind × Nat :=
  if isBlank c then (.blanks, (text.takeWhile isBlank).length)
  else if c = '\n' then (.newline, 0)
  else if c = '\r' then (.newline, if text.head? = some '\n' then 1 else 0)
  else if c = '#' then (.comment, (text.takeWhile (!isLineEnd ·)).length)
  else if c = '"' || c = '\'' then
    if text.take 2 = [c, c] then (.string, stringLinesLength c (text.drop 2) false + 2)
    else (.string, stringLength c text false)
  else
    match symbol? c with
    | some kind => (kind, 0)
    | none => (.word, (text.takeWhile isWordChar).length)

/-- The pieces of a text and the ending after them. -/
def cut : Nat → Text → List Piece
  | fuel + 1, c :: text =>
    let (kind, length) := measure c text
    let rest := text.drop length
    ⟨kind, c :: text.take length, ⟨text.length + 1, rest.length⟩⟩ :: cut fuel rest
  | _, _ => [⟨.ending, [], ⟨0, 0⟩⟩]

def ofText (text : Text) : List Piece := cut text.length text

def isGap (piece : Piece) : Bool := [Kind.blanks, .newline, .comment].contains piece.kind

end Piece

end Retouch.Toml
