import Retouch.Text.Cut

/-!
# Escapes in command-line text

A backslash with `n`, `t` or a backslash behind it stands for a newline, a tab or a backslash. Any
other backslash stands for itself. `escape` writes any text so that `unescape` gives it back.
-/

namespace Retouch

def unescape : Text → Text
  | [] => []
  | [c] => [c]
  | c :: d :: text =>
    if c = '\\' then
      if d = 'n' then '\n' :: unescape text
      else if d = 't' then '\t' :: unescape text
      else if d = '\\' then '\\' :: unescape text
      else '\\' :: d :: unescape text
    else c :: unescape (d :: text)

def escape : Text → Text
  | [] => []
  | c :: text =>
    if c = '\n' then '\\' :: 'n' :: escape text
    else if c = '\t' then '\\' :: 't' :: escape text
    else if c = '\\' then '\\' :: '\\' :: escape text
    else c :: escape text

end Retouch
