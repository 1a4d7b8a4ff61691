import Retouch.Text.Digits
import Retouch.Token.Name

/-!
# Literals of Rust

Each reader returns the text after a literal at the front of a text. What a literal stands for is
not needed, only where it ends and whether it is well formed.
-/

namespace Retouch.Token

/-- The three kinds of strings, which differ in the characters and escapes they may hold. -/
inductive Flavour where
  | text
  | bytes
  | cText
deriving DecidableEq

def Flavour.allows : Flavour → Char → Bool
  | .text, _ => true
  | .bytes, c => c.toNat < 0x80
  | .cText, c => c != '\x00'

/-- The code point in braces of an escape `u`, with the number of characters up to the closing
brace. `len` digits have been read, which make `value`. -/
def bracedCode? : Text → Nat → Nat → Option (Nat × Nat)
  | [], _, _ => none
  | c :: text, len, value =>
    if isHexDigit c then
      if len = 6 then none
      else (bracedCode? text (len + 1) (value * 16 + digitValue c)).map
        fun (code, width) => (code, width + 1)
    else if len = 0 then none
    else if c = '_' then (bracedCode? text len value).map fun (code, width) => (code, width + 1)
    else if c = '\x7d' ∧ value.isValidChar then some (value, 1)
    else none

def escapeWidth? (flavour : Flavour) : Text → Option Nat
  | 'x' :: a :: b :: _ =>
    let allowed := match flavour with
      | .text => '0' ≤ a && a ≤ '7' && isHexDigit b
      | .bytes => isHexDigit a && isHexDigit b
      | .cText => isHexDigit a && isHexDigit b && !(a == '0' && b == '0')
    if allowed then some 3 else none
  | 'u' :: '\x7b' :: text =>
    match flavour, bracedCode? text 0 0 with
    | .text, some (_, width) => some (width + 2)
    | .cText, some (code, width) => if code = 0 then none else some (width + 2)
    | _, _ => none
  | c :: _ =>
    if ['n', 'r', 't', '\\', '\'', '"'].contains c || c == '0' && flavour != .cText then some 1
    else none
  | [] => none

/-- A literal may have a name right behind it. -/
def dropSuffix (text : Text) : Text :=
  match plainName? text with
  | some (_, rest) => rest
  | none => text

/-- The text after a string whose opening quote has been read. `skip` characters belong to an
escape; while `trimming`, white space after a backslash at the end of a line is skipped. -/
def afterString? (flavour : Flavour) : Text → Nat → Bool → Option Text
  | [], _, _ => none
  | _ :: text, skip + 1, trimming => afterString? flavour text skip trimming
  | c :: text, 0, trimming =>
    if c = '\r' ∧ text.head? ≠ some '\n' then none
    else if trimming ∧ (c = ' ' ∨ c = '\t' ∨ c = '\n' ∨ c = '\r') then
      afterString? flavour text 0 true
    else if c = '"' then some (dropSuffix text)
    else if c = '\\' then
      if text.head? = some '\n' ∨ text.head? = some '\r' then afterString? flavour text 0 true
      else
        match escapeWidth? flavour text with
        | some width => afterString? flavour text width false
        | none => none
    else if flavour.allows c then afterString? flavour text 0 false
    else none

def afterRaw? (flavour : Flavour) (hashes : Nat) : Text → Option Text
  | [] => none
  | c :: text =>
    if c = '"' ∧ text.take hashes = List.replicate hashes '#' then
      some (dropSuffix (text.drop hashes))
    else if c = '\r' ∧ text.head? ≠ some '\n' then none
    else if flavour.allows c then afterRaw? flavour hashes text
    else none

def rawString? (flavour : Flavour) (text : Text) : Option Text :=
  let hashes := (text.takeWhile (· == '#')).length
  match text.drop hashes with
  | '"' :: rest => if hashes ≤ 255 then afterRaw? flavour hashes rest else none
  | _ => none

def string? : Text → Option Text
  | '"' :: text => afterString? .text text 0 false
  | 'r' :: text => rawString? .text text
  | 'b' :: '"' :: text => afterString? .bytes text 0 false
  | 'b' :: 'r' :: text => rawString? .bytes text
  | 'c' :: '"' :: text => afterString? .cText text 0 false
  | 'c' :: 'r' :: text => rawString? .cText text
  | _ => none

def closeCharacter? (text : Text) (width : Nat) : Option Text :=
  match text.drop width with
  | '\'' :: rest => some (dropSuffix rest)
  | _ => none

def afterCharacter? (flavour : Flavour) : Text → Option Text
  | '\\' :: text =>
    match escapeWidth? flavour text with
    | some width => closeCharacter? text width
    | none => none
  | c :: text => if flavour.allows c then closeCharacter? text 0 else none
  | [] => none

def character? : Text → Option Text
  | 'b' :: '\'' :: text => afterCharacter? .bytes text
  | '\'' :: text => afterCharacter? .text text
  | _ => none

def endNumber? (text : Text) : Option Text :=
  match dropSuffix text with
  | [] => some []
  | c :: rest => if continuesName c then none else some (c :: rest)

/-- How the part of a number before its exponent ends. The letter of the exponent is the first one
of `rest` and no part of `exponent`. -/
structure Mantissa where
  hasPoint : Bool
  exponent : Option Text
  rest : Text

def mantissa? : Text → Bool → Option Mantissa
  | [], hasPoint => some ⟨hasPoint, none, []⟩
  | c :: text, hasPoint =>
    if c.isDigit || c == '_' then mantissa? text hasPoint
    else if c = '.' ∧ !hasPoint then
      if text.head?.any fun d => d == '.' || startsName d then none else mantissa? text true
    else if c = 'e' ∨ c = 'E' then some ⟨hasPoint, some text, c :: text⟩
    else some ⟨hasPoint, none, c :: text⟩

def exponent? : Text → Bool → Bool → Option Text
  | [], _, hasDigit => if hasDigit then some [] else none
  | c :: text, hasSign, hasDigit =>
    if c.isDigit then exponent? text hasSign true
    else if c = '_' then exponent? text hasSign hasDigit
    else if (c = '+' ∨ c = '-') ∧ !hasDigit then
      if hasSign then none else exponent? text true false
    else if hasDigit then some (c :: text)
    else none

def fractional? (text : Text) : Option Text :=
  match text with
  | c :: rest =>
    if c.isDigit then
      match mantissa? rest false with
      | some ⟨hasPoint, none, rest⟩ => if hasPoint then endNumber? rest else none
      | some ⟨hasPoint, some exponent, rest⟩ =>
        match exponent? exponent false false with
        | some rest => endNumber? rest
        | none => if hasPoint then endNumber? rest else none
      | none => none
    else none
  | [] => none

/-- The text after the digits of an integer in a base. A decimal digit beyond the base spoils the
number, a letter beyond it ends the number. -/
def afterDigits? (base : Nat) : Text → Bool → Option Text
  | [], empty => if empty then none else some []
  | c :: text, empty =>
    if c.isDigit then
      if digitValue c < base then afterDigits? base text false else none
    else if isHexDigit c ∧ digitValue c < base then afterDigits? base text false
    else if c = '_' then
      if empty ∧ base = 10 then none else afterDigits? base text empty
    else if empty then none
    else some (c :: text)

def whole? (text : Text) : Option Text :=
  let rest := match text with
    | '0' :: 'x' :: text => afterDigits? 16 text true
    | '0' :: 'o' :: text => afterDigits? 8 text true
    | '0' :: 'b' :: text => afterDigits? 2 text true
    | text => afterDigits? 10 text true
  rest.bind endNumber?

def literal? (text : Text) : Option Text :=
  (string? text).or ((character? text).or ((fractional? text).or (whole? text)))

end Retouch.Token
