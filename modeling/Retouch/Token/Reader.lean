import Retouch.Token.Literal
import Retouch.Token.Trivia

/-!
# Tokens of Rust

`tokens?` cuts a text into tokens, or fails if a character starts no token or brackets do not
match.
-/

namespace Retouch

inductive Bracket where
  | round
  | square
  | curly
deriving DecidableEq

inductive Token where
  | name (spelling : Text)
  | literal
  | punctuation (c : Char)
  | opening (bracket : Bracket)
  | closing (bracket : Bracket)
  | documentation
deriving DecidableEq

namespace Token

def bracket? : Text → Option (Token × Text)
  | '(' :: text => some (.opening .round, text)
  | ')' :: text => some (.closing .round, text)
  | '[' :: text => some (.opening .square, text)
  | ']' :: text => some (.closing .square, text)
  | '\x7b' :: text => some (.opening .curly, text)
  | '\x7d' :: text => some (.closing .curly, text)
  | _ => none

def marks : Text := "~!@#$%^&*-=+|;:,<.>/?".toList

def startsComment : Text → Bool
  | '/' :: '/' :: _ => true
  | '/' :: '*' :: _ => true
  | _ => false

/-- An apostrophe is a mark if it starts a lifetime: a name must follow, and after the name
neither an apostrophe nor, unless the name is raw, a hash. -/
def isLifetimeMark (text : Text) : Bool :=
  match name? text with
  | none => false
  | some (spelling, rest) =>
    rest.head? != some '\'' && (rest.head? != some '#' || spelling.take 2 == ['r', '#'])

def punctuation? : Text → Option (Token × Text)
  | [] => none
  | c :: text =>
    if startsComment (c :: text) then none
    else if c = '\'' then
      if isLifetimeMark text then some (.punctuation c, text) else none
    else if marks.contains c then some (.punctuation c, text)
    else none

/-- Starts that belong to strings and characters, so that no name starts there. -/
def quotedStarts : List String :=
  ["r\"", "r#\"", "r##", "b\"", "b'", "br\"", "br#", "c\"", "cr\"", "cr#"]

def nameToken? (text : Text) : Option (Token × Text) :=
  if quotedStarts.any fun start => start.toList.isPrefixOf text then none
  else (name? text).map fun (spelling, rest) => (.name spelling, rest)

/-- The token at the front of a text. -/
def next? (text : Text) : Option (Token × Text) :=
  ((docComment? text).map fun rest => (.documentation, rest)).or <|
    (bracket? text).or <|
      ((literal? text).map fun rest => (.literal, rest)).or <|
        (punctuation? text).or (nameToken? text)

def readAll : Nat → Text → Option (List Token)
  | 0, _ => none
  | fuel + 1, text =>
    match skipTrivia (text.length + 1) text with
    | [] => some []
    | text =>
      match next? text with
      | some (token, rest) => (readAll fuel rest).map (token :: ·)
      | none => none

/-- Whether the brackets match, when those in `isOpen` have been opened. -/
def balanced : List Bracket → List Token → Bool
  | isOpen, [] => isOpen.isEmpty
  | isOpen, .opening b :: tokens => balanced (b :: isOpen) tokens
  | isOpen, .closing b :: tokens =>
    match isOpen with
    | a :: isOpen => a == b && balanced isOpen tokens
    | [] => false
  | isOpen, _ :: tokens => balanced isOpen tokens

/-- A byte order mark at the front is no part of the tokens. -/
def tokens? (text : Text) : Option (List Token) :=
  let text := if text.head? = some '\ufeff' then text.tail else text
  (readAll (text.length + 1) text).filter (balanced [])

end Token

end Retouch
