import Retouch.Check
import Retouch.Walk

/-!
# Reprinting a text

Gathers the edits of a tree, puts them in order, checks them and splices them into the text. An
empty text stays empty and its tree is not walked.
-/

namespace Retouch

inductive ReprintError (ε : Type) where
  | query (error : ε)
  | rejected (fault : Fault)

def ReprintError.message {ε : Type} (describe : ε → String) : ReprintError ε → String
  | query error => s!"node query failed: {describe error}"
  | rejected fault => fault.message

/-- An outcome with what was seen on the way. -/
structure Reprinted (σ β : Type) where
  outcome : β
  state : σ
  events : List Event

variable {α σ ε : Type}

def applyEdits (settings : Settings) (source : Text) (edits : List Edit) :
    Except Fault Text × List Event :=
  match check settings source edits with
  | .error fault => (.error fault, [])
  | .ok () => (.ok (splice edits source), edits.map Event.ofSplice)

def Settings.reprint? (settings : Settings) (v : Visitor α σ ε) (tree : Tree α) (source : Text)
    (state : σ) : Reprinted σ (Except (ReprintError ε) Text) :=
  if source.isEmpty then ⟨.ok [], state, []⟩
  else
    let walked := walk v tree state
    match walked.result with
    | .error error => ⟨.error (.query error), walked.state, walked.events⟩
    | .ok found =>
      let edits := Edit.sort found
      let (applied, splicing) := applyEdits settings source edits
      ⟨applied.mapError .rejected, walked.state,
        walked.events ++ .collected edits.length :: splicing⟩

/-- Reprints with a query that cannot fail, so only the checks can refuse. -/
def Settings.reprint (settings : Settings) (v : Visitor α σ Empty) (tree : Tree α)
    (source : Text) (state : σ) : Reprinted σ (Except Fault Text) :=
  if source.isEmpty then ⟨.ok [], state, []⟩
  else
    let walked := walk v tree state
    let edits := Edit.sort walked.edits
    let (applied, splicing) := applyEdits settings source edits
    ⟨applied, walked.state, walked.events ++ .collected edits.length :: splicing⟩

def reprint? (v : Visitor α σ ε) (tree : Tree α) (source : Text) (state : σ) :
    Reprinted σ (Except (ReprintError ε) Text) :=
  Settings.lenient.reprint? v tree source state

def reprint (v : Visitor α σ Empty) (tree : Tree α) (source : Text) (state : σ) :
    Reprinted σ Text :=
  if source.isEmpty then ⟨[], state, []⟩
  else
    let walked := walk v tree state
    let edits := Edit.sort walked.edits
    ⟨splice edits source, walked.state,
      walked.events ++ .collected edits.length :: edits.map Event.ofSplice⟩

end Retouch
