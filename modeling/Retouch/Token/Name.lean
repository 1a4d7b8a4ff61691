import Retouch.Text.Cut
import Retouch.Unicode.Identifier

/-!
# Names in Rust

A name starts with an underscore or a letter. A raw name has `r#` in front, which lets it be
spelled like a keyword.
-/

namespace Retouch.Token

def startsName (c : Char) : Bool := c == '_' || Unicode.isXidStart c

def continuesName (c : Char) : Bool := Unicode.isXidContinue c

def plainName? : Text → Option (Text × Text)
  | [] => none
  | c :: text =>
    if startsName c then
      some (c :: text.takeWhile continuesName, text.dropWhile continuesName)
    else none

/-- Names that cannot be raw. -/
def neverRaw : List String := ["_", "super", "self", "Self", "crate"]

/-- The name at the front of a text, raw or not. A raw name is spelled with its `r#`. -/
def name? : Text → Option (Text × Text)
  | 'r' :: '#' :: text =>
    match plainName? text with
    | some (name, rest) =>
      if neverRaw.contains (String.ofList name) then none else some ('r' :: '#' :: name, rest)
    | none => none
  | text => plainName? text

def keywords : List String :=
  ["_", "abstract", "as", "async", "await", "become", "box", "break", "const", "continue",
   "crate", "do", "dyn", "else", "enum", "extern", "false", "final", "fn", "for", "if", "impl",
   "in", "let", "loop", "macro", "match", "mod", "move", "mut", "override", "priv", "pub", "ref",
   "return", "Self", "self", "static", "struct", "super", "trait", "true", "try", "type",
   "typeof", "unsafe", "unsized", "use", "virtual", "where", "while", "yield"]

end Retouch.Token
