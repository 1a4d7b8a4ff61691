import Retouch.Text.Cut
import Retouch.Unicode.Identifier

/-!
# White space and comments of Rust

What separates tokens. Comments that document an item are tokens themselves and are read by
`docComment?`.
-/

namespace Retouch.Token

/-- The two direction marks count as white space. -/
def isSpace (c : Char) : Bool := Unicode.isWhiteSpace c || c == '\u200e' || c == '\u200f'

/-- The text after a block comment that is open `depth` times. Block comments nest. -/
def afterBlock? : Text → Nat → Option Text
  | '/' :: '*' :: text, depth => afterBlock? text (depth + 1)
  | '*' :: '/' :: text, depth => if depth ≤ 1 then some text else afterBlock? text (depth - 1)
  | _ :: text, depth => afterBlock? text depth
  | [], _ => none

def restOfLine (text : Text) : Text × Text :=
  (text.takeWhile (· != '\n'), text.dropWhile (· != '\n'))

def isLineComment : Text → Bool
  | '/' :: '/' :: '/' :: '/' :: _ => true
  | '/' :: '/' :: '/' :: _ => false
  | '/' :: '/' :: '!' :: _ => false
  | '/' :: '/' :: _ => true
  | _ => false

def isBlockComment : Text → Bool
  | '/' :: '*' :: '*' :: '/' :: _ => true
  | '/' :: '*' :: '*' :: '*' :: _ => true
  | '/' :: '*' :: '*' :: _ => false
  | '/' :: '*' :: '!' :: _ => false
  | '/' :: '*' :: _ => true
  | _ => false

/-- Skips white space and ordinary comments. A block comment that is not closed is left. -/
def skipTrivia : Nat → Text → Text
  | 0, text => text
  | fuel + 1, text =>
    if isLineComment text then skipTrivia fuel (restOfLine text).2
    else if isBlockComment text then
      match afterBlock? text 0 with
      | some rest => skipTrivia fuel rest
      | none => text
    else
      match text with
      | c :: rest => if isSpace c then skipTrivia fuel rest else text
      | [] => []

def returnsPaired : Text → Bool
  | [] => true
  | c :: text => (c != '\r' || text.head? == some '\n') && returnsPaired text

def docLine? (text : Text) : Option Text :=
  let (line, rest) := restOfLine text
  let line := if !rest.isEmpty && line.getLast? == some '\r' then line.dropLast else line
  if returnsPaired line then some rest else none

def docBlock? (text : Text) : Option Text :=
  match afterBlock? text 0 with
  | some rest =>
    let body := (text.take (text.length - rest.length - 2)).drop 3
    if returnsPaired body then some rest else none
  | none => none

def docComment? : Text → Option Text
  | '/' :: '/' :: '!' :: text => docLine? text
  | '/' :: '*' :: '!' :: text => docBlock? ('/' :: '*' :: '!' :: text)
  | '/' :: '/' :: '/' :: '/' :: _ => none
  | '/' :: '/' :: '/' :: text => docLine? text
  | '/' :: '*' :: '*' :: '*' :: _ => none
  | '/' :: '*' :: '*' :: text => docBlock? ('/' :: '*' :: '*' :: text)
  | _ => none

end Retouch.Token
