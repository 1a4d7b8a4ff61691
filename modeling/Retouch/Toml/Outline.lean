import Retouch.Toml.Fault
import Retouch.Toml.Piece
import Retouch.Toml.Reader

/-!
# Outlines

The outline of a text is its keys and plain values, expression by expression, as the pieces around
them lay it out. A key or value need not be well formed here, only stand where one may stand.
-/

namespace Retouch.Toml

/-- A key or a value, as it is written. Values in brackets are outlined by what they hold. -/
inductive Part where
  | key (text : Text) (mark : Mark)
  | value (text : Text) (mark : Mark)
deriving DecidableEq

def Part.mark : Part → Mark
  | key _ mark => mark
  | value _ mark => mark

namespace Outline

/-- What may come next. -/
inductive Mode where
  | expression
  | headerStart
  | headerKey (isList : Bool)
  | headerKeyEnd (isList : Bool)
  | headerEnd
  | key
  | keyEnd
  | value
  /-- Inside a value without quotes, with the blanks after what has been read of it. -/
  | word (text : Text) (mark : Mark) (blanks : Text)
  | valueEnd
  | element
  | member
  /-- The line is passed over, because a key is missing. -/
  | skipped
deriving DecidableEq

/-- How far a text has been outlined. -/
structure State where
  mode : Mode
  /-- The brackets that are open, the innermost first. -/
  isOpen : List Bracketed
  /-- The last piece that is no gap. -/
  last : Mark
  /-- The parts of the expressions, the last one first. -/
  expressions : List (List Part)

namespace State

def initial : State := ⟨.expression, [], ⟨0, 0⟩, []⟩

def enter (s : State) (mode : Mode) : Except Complaint State := .ok { s with mode }

def fail (fault : Fault) (mark : Mark) : Except Complaint State := .error ⟨fault, mark⟩

def newExpression (s : State) : State := { s with expressions := [] :: s.expressions }

def add (s : State) (part : Part) : State :=
  match s.expressions with
  | [] => { s with expressions := [[part]] }
  | parts :: expressions => { s with expressions := (part :: parts) :: expressions }

def addKey (s : State) (piece : Piece) : State := s.add (.key piece.text piece.mark)

/-- The key that is missing before a piece. -/
def addMissingKey (s : State) (piece : Piece) : State := s.add (.key [] piece.mark.before)

def isInline (s : State) : Bool := !s.isOpen.isEmpty

def openBracketed (s : State) (what : Bracketed) (piece : Piece) : Except Complaint State :=
  if maxDepth ≤ s.isOpen.length then fail .tooDeep piece.mark
  else
    let mode : Mode := match what with
      | .array => .element
      | .inlineTable => .member
    .ok { s with mode, isOpen := what :: s.isOpen }

def close (s : State) : Except Complaint State :=
  .ok { s with mode := .valueEnd, isOpen := s.isOpen.tail }

/-- Where a value may stand and nothing else has been found to be wrong. -/
def startValue (s : State) (piece : Piece) : Except Complaint State :=
  match piece.kind with
  | .openBracket => s.openBracketed .array piece
  | .openBrace => s.openBracketed .inlineTable piece
  | .closeBracket => fail (.notOpened .array) piece.mark.before
  | .closeBrace => fail (.notOpened .inlineTable) piece.mark.before
  | .string => (s.add (.value piece.text piece.mark)).enter .valueEnd
  | _ => s.enter (.word piece.text piece.mark [])

def afterValue (s : State) (piece : Piece) : Except Complaint State :=
  match s.isOpen with
  | [] =>
    match piece.kind with
    | .newline => s.enter .expression
    | .blanks | .comment | .ending => s.enter .valueEnd
    | _ => fail .moreOnLine piece.mark.before
  | what :: _ =>
    if piece.isGap then s.enter .valueEnd
    else
      match piece.kind, what with
      | .closeBracket, .array | .closeBrace, .inlineTable => s.close
      | .comma, .array => s.enter .element
      | .comma, .inlineTable => s.enter .member
      | .equals, .array => fail .equalsInArray piece.mark
      | .ending, _ => fail (.notClosed what) s.last.after
      | _, _ => fail (.missingComma what) piece.mark.before

def atValue (s : State) (piece : Piece) : Except Complaint State :=
  match piece.kind, s.isInline with
  | .blanks, _ | .newline, true | .comment, true => s.enter .value
  | .equals, _ => fail .extraEquals piece.mark
  | .comma, true => fail (.extraComma .inlineTable) piece.mark
  | .closeBrace, true => fail .missingMemberValue piece.mark.before
  | .ending, true => fail (.notClosed .inlineTable) s.last.after
  | .newline, false | .comment, false | .comma, false | .ending, false =>
    (s.add (.value [] piece.mark.before)).afterValue piece
  | _, _ => s.startValue piece

def atElement (s : State) (piece : Piece) : Except Complaint State :=
  if piece.isGap then s.enter .element
  else
    match piece.kind with
    | .closeBracket => s.close
    | .comma => fail (.extraComma .array) piece.mark
    | .equals => fail .equalsInArray piece.mark
    | .ending => fail (.notClosed .array) s.last.after
    | _ => s.startValue piece

def afterKey (s : State) (piece : Piece) : Except Complaint State :=
  match piece.kind, s.isInline with
  | .blanks, _ | .newline, true | .comment, true => s.enter .keyEnd
  | .dot, _ => s.enter .key
  | .equals, _ => s.enter .value
  | .comma, true => fail (.extraComma .inlineTable) piece.mark
  | .ending, true => fail (.notClosed .inlineTable) s.last.after
  | _, true => fail .missingEquals piece.mark.before
  | _, false => fail .keyWithoutValue piece.mark.before

def atKey (s : State) (piece : Piece) : Except Complaint State :=
  match piece.kind with
  | .blanks => s.enter .key
  | .dot => (s.addMissingKey piece).enter .key
  | .string | .word => (s.addKey piece).enter .keyEnd
  | _ => (s.addMissingKey piece).afterKey piece

def atMember (s : State) (piece : Piece) : Except Complaint State :=
  if piece.isGap then s.enter .member
  else
    match piece.kind with
    | .closeBrace => s.close
    | .comma => fail (.extraComma .inlineTable) piece.mark
    | .ending => fail (.notClosed .inlineTable) s.last.after
    | .openBracket | .closeBracket | .openBrace => fail .missingMemberKey piece.mark.before
    | _ => s.atKey piece

/-- A header that is closed after its key, or has no key. -/
def closeHeader (s : State) (isList : Bool) : Except Complaint State :=
  s.enter (if isList then .headerEnd else .valueEnd)

def atHeaderKey (s : State) (isList : Bool) (piece : Piece) : Except Complaint State :=
  match piece.kind with
  | .blanks => s.enter (.headerKey isList)
  | .dot => (s.addMissingKey piece).enter (.headerKey isList)
  | .string | .word => (s.addKey piece).enter (.headerKeyEnd isList)
  | .closeBracket => (s.addMissingKey piece).closeHeader isList
  | .newline => (s.addMissingKey piece).enter .expression
  | _ => (s.addMissingKey piece).enter .skipped

def afterHeaderKey (s : State) (isList : Bool) (piece : Piece) : Except Complaint State :=
  match piece.kind with
  | .blanks => s.enter (.headerKeyEnd isList)
  | .dot => s.enter (.headerKey isList)
  | .closeBracket => s.closeHeader isList
  | _ => fail (.headerNotClosed isList (if isList then "]]" else "]")) s.last.after

def atExpression (s : State) (piece : Piece) : Except Complaint State :=
  match piece.kind with
  | .blanks | .newline | .comment | .ending => s.enter .expression
  | .openBracket => s.newExpression.enter .headerStart
  | .closeBracket => fail .headerNotOpened piece.mark.before
  | .comma | .openBrace | .closeBrace => fail .missingKey piece.mark.before
  | _ => s.newExpression.atKey piece

/-- What the next piece does to the outline, whatever the piece holds. -/
def place (s : State) (piece : Piece) : Except Complaint State :=
  match s.mode with
  | .expression => s.atExpression piece
  | .headerStart =>
    if piece.kind = .openBracket then s.enter (.headerKey true) else s.atHeaderKey false piece
  | .headerKey isList => s.atHeaderKey isList piece
  | .headerKeyEnd isList => s.afterHeaderKey isList piece
  | .headerEnd =>
    if piece.kind = .closeBracket then s.enter .valueEnd
    else fail (.headerNotClosed true "]") s.last.after
  | .key => s.atKey piece
  | .keyEnd => s.afterKey piece
  | .value => s.atValue piece
  | .word text mark blanks =>
    match piece.kind with
    | .blanks => s.enter (.word text mark piece.text)
    | .dot | .word =>
      s.enter (.word (text ++ blanks ++ piece.text) ⟨mark.start, piece.mark.stop⟩ [])
    | _ => (s.add (.value text mark)).afterValue piece
  | .valueEnd => s.afterValue piece
  | .element => s.atElement piece
  | .member => s.atMember piece
  | .skipped => s.enter (if piece.kind = .newline then .expression else .skipped)

/-- Newlines and comments are the same everywhere. -/
def step (s : State) (piece : Piece) : Except Complaint State := do
  if piece.text = ['\r'] then fail .loneReturn piece.mark.after
  else if piece.kind = .comment && !piece.text.all isPlain then
    let plain := piece.text.takeWhile isPlain
    fail .commentCharacter (Mark.before ⟨piece.mark.start - plain.length, piece.mark.stop⟩)
  else
    let next ← s.place piece
    return if piece.isGap then next else { next with last := piece.mark }

end State

end Outline

/-- The parts of each expression, or where the outline of a document breaks. -/
def outline (text : Text) : Except Complaint (List (List Part)) := do
  let s ← (Piece.ofText text).foldlM Outline.State.step .initial
  return (s.expressions.map List.reverse).reverse

end Retouch.Toml
