import Retouch.Toml.Scalar

/-!
# TOML strings

Basic strings stand between double quotes and have escapes, literal strings stand between
apostrophes and have none. Both may be of many lines, with three quotes on either side. The
readers here start after the opening quotes and return the content and the rest of the text.
-/

namespace Retouch.Toml

def isBlank (c : Char) : Bool := c == ' ' || c == '\t'

/-- Characters that may stand as they are in a comment or a string. -/
def isPlain (c : Char) : Bool := c == '\t' || 0x20 ≤ c.toNat && c.toNat ≠ 0x7F

def startsWithNewline : Text → Bool
  | '\n' :: _ => true
  | '\r' :: '\n' :: _ => true
  | _ => false

def simpleEscapes : List (Char × Char) :=
  [('b', '\x08'), ('t', '\t'), ('n', '\n'), ('f', '\x0c'), ('r', '\r'), ('e', '\x1b'),
   ('"', '"'), ('\\', '\\')]

def codePoint? (digits : Text) : Option Char :=
  let n := numeral 16 digits
  if digits.all isHexDigit && n.isValidChar then some (Char.ofNat n) else none

def escapeWidth? (c : Char) : Option Nat :=
  if c = 'x' then some 2 else if c = 'u' then some 4 else if c = 'U' then some 8 else none

/-- The character for an escape, and the number of characters that spell it after the
backslash. -/
def escape? : Text → Option (Char × Nat)
  | [] => none
  | c :: text =>
    match escapeWidth? c with
    | some width =>
      let digits := text.take width
      if digits.length = width then (codePoint? digits).map (·, width + 1) else none
    | none => (simpleEscapes.lookup c).map (·, 1)

/-- `skip` is the number of characters that the last escape still covers. -/
def basicBody : Text → Nat → Option (Text × Text)
  | [], _ => none
  | _ :: text, skip + 1 => basicBody text skip
  | c :: text, 0 =>
    if c = '"' then some ([], text)
    else if c = '\\' then
      match escape? text with
      | some (e, width) => (basicBody text width).map fun (body, rest) => (e :: body, rest)
      | none => none
    else if isPlain c then (basicBody text 0).map fun (body, rest) => (c :: body, rest)
    else none

def literalBody : Text → Option (Text × Text)
  | [] => none
  | c :: text =>
    if c = '\'' then some ([], text)
    else if isPlain c then (literalBody text).map fun (body, rest) => (c :: body, rest)
    else none

/-- The end of a string of many lines, whose quotes stand at the front of `text`. Up to two
quotes before the closing three belong to the content. -/
def closing? (quote : Char) (text : Text) : Option (Text × Text) :=
  let count := min 5 (text.takeWhile (· == quote)).length
  if 3 ≤ count then some (List.replicate (count - 3) quote, text.drop count) else none

/-- Newlines are kept as they are written. While `trimming`, blanks and newlines are left out: a
backslash at the end of a line starts this. -/
def basicLines : Text → Nat → Bool → Option (Text × Text)
  | [], _, _ => none
  | _ :: text, skip + 1, trimming => basicLines text skip trimming
  | c :: text, 0, trimming =>
    if startsWithNewline (c :: text) then
      let next := basicLines text 0 trimming
      if trimming then next else next.map fun (body, rest) => (c :: body, rest)
    else if trimming && isBlank c then basicLines text 0 true
    else if c = '"' then
      match closing? '"' (c :: text) with
      | some found => some found
      | none => (basicLines text 0 false).map fun (body, rest) => (c :: body, rest)
    else if c = '\\' then
      if startsWithNewline (text.dropWhile isBlank) then basicLines text 0 true
      else
        match escape? text with
        | some (e, width) =>
          (basicLines text width false).map fun (body, rest) => (e :: body, rest)
        | none => none
    else if isPlain c then
      (basicLines text 0 false).map fun (body, rest) => (c :: body, rest)
    else none

def literalLines : Text → Option (Text × Text)
  | [] => none
  | c :: text =>
    if c = '\'' then
      match closing? '\'' (c :: text) with
      | some found => some found
      | none => (literalLines text).map fun (body, rest) => (c :: body, rest)
    else if isPlain c || startsWithNewline (c :: text) then
      (literalLines text).map fun (body, rest) => (c :: body, rest)
    else none

/-- A newline right after the opening quotes is no part of the string. -/
def dropNewline : Text → Text
  | '\n' :: text => text
  | '\r' :: '\n' :: text => text
  | text => text

def quotation? : Text → Option (Text × Text)
  | '"' :: '"' :: '"' :: text => basicLines (dropNewline text) 0 false
  | '"' :: text => basicBody text 0
  | '\'' :: '\'' :: '\'' :: text => literalLines (dropNewline text)
  | '\'' :: text => literalBody text
  | _ => none

end Retouch.Toml
