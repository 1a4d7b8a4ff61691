/-!
# Coloured output

Pieces of text with terminal colours around them. A reset inside a piece would end its colour, so
the colour is set again after it.
-/

namespace Retouch.Command

inductive Colour where
  | red
  | green
  | yellow
  | dimmed
deriving DecidableEq

def Colour.code : Colour → String
  | red => "31"
  | green => "32"
  | yellow => "33"
  | dimmed => "2"

def sequence (code : String) : String := s!"\x1b[{code}m"

def reset : String := sequence "0"

/-- Colours `piece` if colours are on. -/
def paint (colours : Bool) (colour : Colour) (piece : String) : String :=
  if colours then
    let style := sequence colour.code
    style ++ piece.replace reset (reset ++ style) ++ reset
  else piece

end Retouch.Command
