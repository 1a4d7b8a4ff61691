import Retouch.Decimal.Shortest
import Retouch.Text.Quoted

/-!
# TOML values

A value is kept as far as a message can name it: dates, arrays and tables only by their kind.
-/

namespace Retouch.Toml

inductive Real where
  | finite (negative : Bool) (magnitude : Decimal.Binary64)
  | infinite (negative : Bool)
  | nan
deriving DecidableEq

def Real.render : Real → String
  | finite negative magnitude =>
    (if negative then "-" else "") ++ magnitude.shortest.positional
  | infinite negative => if negative then "-inf" else "inf"
  | nan => "NaN"

inductive Value where
  | string (text : Text)
  | integer (n : Int)
  | real (x : Real)
  | boolean (b : Bool)
  | datetime
  | array
  | table
deriving DecidableEq

/-- How messages name a value. -/
def Value.describe : Value → String
  | string text => "string " ++ quoted text
  | integer n => s!"integer `{n}`"
  | real x => s!"floating point `{x.render}`"
  | boolean b => s!"boolean `{b}`"
  | array => "sequence"
  | datetime | table => "map"

end Retouch.Toml
