import Retouch.Text.Digits
import Retouch.Toml.Value

/-!
# TOML numbers, booleans and dates

The values that are written as one word without quotes.
-/

namespace Retouch.Toml

/-- The digits of a group, at least one. An underscore may stand between two digits. -/
def digits? (isDigit : Char → Bool) : Text → Option Text
  | [] => none
  | [c] => if isDigit c then some [c] else none
  | c :: d :: word =>
    if isDigit c then
      if d = '_' then (digits? isDigit word).map (c :: ·)
      else (digits? isDigit (d :: word)).map (c :: ·)
    else none

def wholeDigits? (word : Text) : Option Text :=
  match digits? Char.isDigit word with
  | some ('0' :: _ :: _) => none
  | found => found

/-- Whether a word starts with a minus sign, and the word without its sign. -/
def splitSign : Text → Bool × Text
  | '-' :: word => (true, word)
  | '+' :: word => (false, word)
  | word => (false, word)

def leastInteger : Int := -9223372036854775808

def greatestInteger : Int := 9223372036854775807

def inIntegerRange? (n : Int) : Option Value :=
  if leastInteger ≤ n ∧ n ≤ greatestInteger then some (.integer n) else none

def signed (negative : Bool) (n : Nat) : Int := if negative then -n else n

def integer? : Text → Option Value
  | '0' :: 'x' :: word => (digits? isHexDigit word).bind (inIntegerRange? <| numeral 16 ·)
  | '0' :: 'o' :: word => (digits? isOctalDigit word).bind (inIntegerRange? <| numeral 8 ·)
  | '0' :: 'b' :: word => (digits? isBinaryDigit word).bind (inIntegerRange? <| numeral 2 ·)
  | word =>
    let (negative, word) := splitSign word
    (wholeDigits? word).bind fun digits => inIntegerRange? (signed negative (numeral 10 digits))

/-- A word cut at its first character that satisfies `p`, which is dropped. -/
def splitAtFirst (p : Char → Bool) (word : Text) : Text × Option Text :=
  (word.takeWhile (!p ·), (word.dropWhile (!p ·)).tail?)

def exponent? : Option Text → Option Int
  | none => some 0
  | some word =>
    let (negative, word) := splitSign word
    (digits? Char.isDigit word).map fun digits => signed negative (numeral 10 digits)

def fraction? : Option Text → Option Text
  | none => some []
  | some word => digits? Char.isDigit word

def real? (word : Text) : Option Value := do
  let (negative, word) := splitSign word
  if word = ['i', 'n', 'f'] then return .real (.infinite negative)
  if word = ['n', 'a', 'n'] then return .real .nan
  let (mantissa, exponent) := splitAtFirst (fun c => c == 'e' || c == 'E') word
  let (whole, fraction) := splitAtFirst (· == '.') mantissa
  guard (exponent.isSome || fraction.isSome)
  let whole ← wholeDigits? whole
  let fraction ← fraction? fraction
  let exponent ← exponent? exponent
  let magnitude ← Decimal.Binary64.ofDecimal? (numeral 10 (whole ++ fraction))
    (exponent - fraction.length)
  return .real (.finite negative magnitude)

def daysInMonth (year month : Nat) : Nat :=
  if month = 2 then
    if year % 4 = 0 ∧ (year % 100 ≠ 0 ∨ year % 400 = 0) then 29 else 28
  else if month = 4 ∨ month = 6 ∨ month = 9 ∨ month = 11 then 30
  else 31

/-- `YYYY-MM-DD`, a day of the calendar. -/
def isDate : Text → Bool
  | [y₁, y₂, y₃, y₄, '-', m₁, m₂, '-', d₁, d₂] =>
    let year := numeral 10 [y₁, y₂, y₃, y₄]
    let month := numeral 10 [m₁, m₂]
    let day := numeral 10 [d₁, d₂]
    [y₁, y₂, y₃, y₄, m₁, m₂, d₁, d₂].all Char.isDigit && 1 ≤ month && month ≤ 12 &&
      1 ≤ day && day ≤ daysInMonth year month
  | _ => false

def isTwoDigits (greatest : Nat) (c d : Char) : Bool :=
  c.isDigit && d.isDigit && numeral 10 [c, d] ≤ greatest

/-- `:SS` with an optional fraction, or nothing. -/
def isSeconds : Text → Bool
  | [] => true
  | ':' :: s₁ :: s₂ :: rest =>
    isTwoDigits 60 s₁ s₂ &&
      match rest with
      | [] => true
      | '.' :: digits => !digits.isEmpty && digits.all Char.isDigit
      | _ => false
  | _ => false

/-- `HH:MM`, maybe with seconds. -/
def isTime : Text → Bool
  | h₁ :: h₂ :: ':' :: m₁ :: m₂ :: rest =>
    isTwoDigits 23 h₁ h₂ && isTwoDigits 59 m₁ m₂ && isSeconds rest
  | _ => false

/-- `Z` or `±HH:MM`, or nothing. -/
def isOffset : Text → Bool
  | [] => true
  | [c] => c == 'Z' || c == 'z'
  | [s, h₁, h₂, ':', m₁, m₂] =>
    (s == '+' || s == '-') && isTwoDigits 23 h₁ h₂ && isTwoDigits 59 m₁ m₂
  | _ => false

def isTimeWithOffset (word : Text) : Bool :=
  let inTime (c : Char) : Bool := c.isDigit || c == ':' || c == '.'
  isTime (word.takeWhile inTime) && isOffset (word.dropWhile inTime)

def isDatetime (word : Text) : Bool :=
  isTime word || isDate word ||
    isDate (word.take 10) &&
      match word.drop 10 with
      | c :: time => (c == 'T' || c == 't' || c == ' ') && isTimeWithOffset time
      | [] => false

def datetime? (word : Text) : Option Value := if isDatetime word then some .datetime else none

def scalar? (word : Text) : Option Value :=
  if word = ['t', 'r', 'u', 'e'] then some (.boolean true)
  else if word = ['f', 'a', 'l', 's', 'e'] then some (.boolean false)
  else (integer? word).or ((real? word).or (datetime? word))

def isScalarChar (c : Char) : Bool :=
  c.isAlphanum || c == '+' || c == '-' || c == '_' || c == '.' || c == ':'

/-- The word at the front of a text. A date goes on over one space if a time follows. -/
def scalarWord (text : Text) : Text × Text :=
  let word := text.takeWhile isScalarChar
  let rest := text.dropWhile isScalarChar
  match isDate word, rest with
  | true, ' ' :: h₁ :: h₂ :: ':' :: _ =>
    if h₁.isDigit && h₂.isDigit then
      (word ++ ' ' :: rest.tail.takeWhile isScalarChar, rest.tail.dropWhile isScalarChar)
    else (word, rest)
  | _, _ => (word, rest)

end Retouch.Toml
