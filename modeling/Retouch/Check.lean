import Retouch.Settings
import Retouch.Splice
import Retouch.Text.Lines

/-!
# Checking edits against a text

The settings say which checks run. Overlaps are looked for between neighbours only, and before
any bound is looked at.
-/

namespace Retouch

/-- Why edits are refused. -/
inductive Fault where
  | overlapping (previous next : Span)
  /-- `nearest` is the end of the bound's line, or of the text if there is no such line. -/
  | outOfBounds (bound nearest : Position)
deriving DecidableEq

def Fault.message : Fault → String
  | overlapping previous next =>
    s!"directive at {next.render} overlaps the preceding directive at {previous.render}"
  | outOfBounds bound nearest =>
    s!"directive bound {bound.render} is not in the source; the nearest end is {nearest.render}"

def firstOverlap : List Edit → Option Fault
  | a :: b :: edits =>
    if a.span.overlaps b.span then some (.overlapping a.span b.span)
    else firstOverlap (b :: edits)
  | _ => none

/-- The last position on the line of `p`, or of the text if it has no such line. -/
def nearestEnd (text : Text) (p : Position) : Position :=
  match (lines text)[p.line.value - 1]? with
  | some line => ⟨p.line, .ofZeroBased line.length⟩
  | none => Position.start.after text

def bounds (edits : List Edit) : List Position :=
  edits.flatMap fun e => [e.span.lower, e.span.upper]

def firstOutOfBounds (text : Text) (edits : List Edit) : Option Fault :=
  (bounds edits).findSome? fun bound =>
    let nearest := nearestEnd text bound
    if nearest < bound then some (.outOfBounds bound nearest) else none

/-- The first fault that the settings look for, in edits ordered by span. -/
def firstFault (settings : Settings) (text : Text) (edits : List Edit) : Option Fault :=
  (if settings.rejectOverlapping then firstOverlap edits else none).or
    (if settings.rejectOutOfBounds then firstOutOfBounds text edits else none)

def check (settings : Settings) (text : Text) (edits : List Edit) : Except Fault Unit :=
  match firstFault settings text edits with
  | some fault => .error fault
  | none => .ok ()

end Retouch
