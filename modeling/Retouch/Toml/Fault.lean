import Retouch.Toml.Document

/-!
# Faults of a text that is no document
-/

namespace Retouch.Toml

/-- What stands in brackets as one value. -/
inductive Bracketed where
  | array
  | inlineTable
deriving DecidableEq

namespace Bracketed

def name : Bracketed → String
  | array => "array"
  | inlineTable => "inline table"

def opening : Bracketed → String
  | array => "["
  | inlineTable => "\x7b"

def closing : Bracketed → String
  | array => "]"
  | inlineTable => "\x7d"

def members : Bracketed → String
  | array => "array elements"
  | inlineTable => "key-value pairs"

end Bracketed

inductive Fault where
  | keyWithoutValue
  | missingKey
  | missingMemberKey
  | missingMemberValue
  | missingEquals
  | extraEquals
  | equalsInArray
  | headerNotOpened
  | headerNotClosed (isList : Bool) (closing : String)
  | notOpened (what : Bracketed)
  | notClosed (what : Bracketed)
  | extraComma (what : Bracketed)
  | missingComma (what : Bracketed)
  | moreOnLine
  | tooDeep
  | loneReturn
  | commentCharacter
  | emptyKey
  | keyCharacter
  | stringNotClosed (kind : String) (closing : String)
  | badSymbol (kind : String) (symbol : String)
  | unquotedText
  | badNumber (kind : String)
  | keyTaken
deriving DecidableEq

namespace Fault

def keyCharacters : String := "letters, numbers, `-`, `_`"

def message : Fault → String
  | keyWithoutValue => "key with no value, expected `=`"
  | missingKey => "invalid key-value pair, expected key"
  | missingMemberKey => "missing key for inline table element, expected key"
  | missingMemberValue => "missing value for inline table element, expected value"
  | missingEquals => "missing assignment between key-value pairs, expected `=`"
  | extraEquals => "extra `=`, expected nothing"
  | equalsInArray => "unexpected `=` in array, expected value, `]`"
  | headerNotOpened => "missing table open, expected `[`"
  | headerNotClosed false closing => s!"unclosed table, expected `{closing}`"
  | headerNotClosed true closing => s!"unclosed array table, expected `{closing}`"
  | notOpened what => s!"missing {what.name} opening, expected `{what.opening}`"
  | notClosed what => s!"unclosed {what.name}, expected `{what.closing}`"
  | extraComma .array => "extra comma in array, expected value"
  | extraComma .inlineTable => "extra comma in inline table, expected key"
  | missingComma what => s!"missing comma between {what.members}, expected `,`"
  | moreOnLine => "unexpected key or value, expected newline, `#`"
  | tooDeep => "cannot recurse further; max recursion depth met"
  | loneReturn => "carriage return must be followed by newline, expected newline"
  | commentCharacter => "invalid comment character, expected printable characters"
  | emptyKey => s!"unquoted keys cannot be empty, expected {keyCharacters}"
  | keyCharacter => s!"invalid unquoted key, expected {keyCharacters}"
  | stringNotClosed kind closing => s!"invalid {kind} string, expected `{closing}`"
  | badSymbol kind symbol => s!"invalid {kind}, expected `{symbol}`"
  | unquotedText => "string values must be quoted, expected literal string"
  | badNumber kind => s!"invalid {kind}"
  | keyTaken => "duplicate key"

end Fault

/-- A fault and its place. -/
structure Complaint where
  fault : Fault
  mark : Mark
deriving DecidableEq

end Retouch.Toml
