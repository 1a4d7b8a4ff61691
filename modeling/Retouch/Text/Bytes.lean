import Retouch.Text.Cut

/-!
# Bytes of a text

Parsers count in bytes of the UTF-8 form. A range of bytes names a piece of a text only if both
of its ends fall between characters of the text.
-/

namespace Retouch

def byteSize : Text → Nat
  | [] => 0
  | c :: text => c.utf8Size + byteSize text

@[simp] theorem byteSize_nil : byteSize [] = 0 := rfl

@[simp] theorem byteSize_cons (c : Char) (text : Text) :
    byteSize (c :: text) = c.utf8Size + byteSize text := rfl

theorem byteSize_append (s t : Text) : byteSize (s ++ t) = byteSize s + byteSize t := by
  induction s with
  | nil => simp
  | cons c s ih => simp [ih, Nat.add_assoc]

/-- The text without its first `n` bytes, if these are whole characters. -/
def dropBytes? : Text → Nat → Option Text
  | text, 0 => some text
  | [], _ + 1 => none
  | c :: text, n + 1 => if c.utf8Size ≤ n + 1 then dropBytes? text (n + 1 - c.utf8Size) else none

/-- The first `n` bytes of a text, if these are whole characters. -/
def takeBytes? : Text → Nat → Option Text
  | _, 0 => some []
  | [], _ + 1 => none
  | c :: text, n + 1 =>
    if c.utf8Size ≤ n + 1 then (takeBytes? text (n + 1 - c.utf8Size)).map (c :: ·) else none

def byteSlice? (text : Text) (start stop : Nat) : Option Text :=
  if start ≤ stop then (dropBytes? text start).bind (takeBytes? · (stop - start)) else none

def encodeUtf8 (text : Text) : ByteArray := (String.ofList text).toUTF8

def decodeUtf8? (bytes : ByteArray) : Option Text := (String.fromUTF8? bytes).map String.toList

end Retouch
