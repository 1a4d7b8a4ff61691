import Retouch.Text.Bytes
import Retouch.Text.Lines
import Retouch.Toml.Document

/-!
# Messages about a place in a document

A message shows the line of the place with carets under it. The column counts characters, but
bytes if the place starts with a character beyond ASCII. The carets count bytes and never go past
the bytes of the line.
-/

namespace Retouch.Toml

def reportTitle : String := "TOML parse error"

/-- `text` is the whole document. -/
def report (text : Text) (mark : Mark) (message : String) : String :=
  let lead := text.take (text.length - mark.start)
  let marked := (text.drop lead.length).take (mark.start - mark.stop)
  let row := lead.count '\n'
  let before := (lead.reverse.takeWhile (· != '\n')).reverse
  let isAscii := (text.drop lead.length).head?.all fun c => c.toNat < 0x80
  let column := if isAscii then before.length else byteSize before
  let line := (lines text)[row]?.getD []
  let carets := max 1 (min (byteSize marked) (byteSize line - column))
  let number := toString (row + 1)
  let margin := String.ofList (List.replicate (number.length + 1) ' ') ++ "|"
  let underline := List.replicate (column + 1) ' ' ++ List.replicate carets '^'
  s!"{reportTitle} at line {number}, column {column + 1}\n{margin}\n" ++
    s!"{number} | {String.ofList line}\n{margin}{String.ofList underline}\n{message}\n"

end Retouch.Toml
