import Retouch.Text.Cut
import Retouch.Unicode.Visible

/-!
# Quoted texts

A text between double quotes, as messages show it. What cannot be seen is written as an escape.
-/

namespace Retouch

/-- A character by its code point in hexadecimal digits. -/
def codePointEscape (c : Char) : Text :=
  ['\\', 'u', '\x7b'] ++ Nat.toDigits 16 c.toNat ++ ['\x7d']

def quotedChar (c : Char) : Text :=
  if c = '\x00' then ['\\', '0']
  else if c = '\t' then ['\\', 't']
  else if c = '\r' then ['\\', 'r']
  else if c = '\n' then ['\\', 'n']
  else if c = '"' ∨ c = '\\' then ['\\', c]
  else if Unicode.extendsGrapheme c then codePointEscape c
  else if Unicode.isVisible c then [c]
  else codePointEscape c

def quoted (text : Text) : String :=
  String.ofList ('"' :: text.flatMap quotedChar ++ ['"'])

end Retouch
