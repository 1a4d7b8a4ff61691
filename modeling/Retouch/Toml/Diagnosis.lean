import Retouch.Toml.Outline

/-!
# What is wrong with a text

`diagnose` finds the complaint about a text that is no document. An outline that breaks anywhere
comes first, then a key or value of the expression that cannot be read, and then a key that is
taken already.
-/

namespace Retouch.Toml

namespace Part

def stringComplaint (text : Text) (mark : Mark) : Complaint :=
  let fault : Fault := match text with
    | '"' :: '"' :: '"' :: _ => .stringNotClosed "multi-line basic" "\"\"\""
    | '"' :: _ => .stringNotClosed "basic" "\""
    | '\'' :: '\'' :: '\'' :: _ => .stringNotClosed "multi-line literal" "'''"
    | _ => .stringNotClosed "literal" "'"
  ⟨fault, mark.after⟩

def keyComplaint? (text : Text) (mark : Mark) : Option Complaint :=
  match text with
  | [] => some ⟨.emptyKey, mark⟩
  | c :: _ =>
    if c = '"' || c = '\'' then
      match simpleKey? text with
      | some (_, []) => none
      | _ => some (stringComplaint text mark)
    else
      let plain := text.takeWhile isBareKeyChar
      if plain.length = text.length then none
      else some ⟨.keyCharacter, Mark.before ⟨mark.start - plain.length, mark.stop⟩⟩

def isNumberChar (c : Char) : Bool := c.isDigit || c == '_'

/-- The fault of a word that is no value, by how it starts. -/
def wordFault (word : Text) : Fault :=
  let number := (splitSign word).2
  let rest := number.dropWhile isNumberChar
  match word with
  | [] => .unquotedText
  | c :: _ =>
    if word.contains ' ' then .unquotedText
    else if c = 't' || c = 'T' then .badSymbol "boolean" "true"
    else if c = 'f' || c = 'F' then .badSymbol "boolean" "false"
    else if c = 'i' || c = 'I' then .badSymbol "float" "inf"
    else if c = 'n' || c = 'N' then .badSymbol "float" "nan"
    else if rest.length = number.length && c ≠ '.' then .unquotedText
    else if rest.isEmpty then .badNumber "integer"
    else if rest.head? = some '-' || rest.head? = some ':' then .badNumber "datetime"
    else if rest.head?.any ['.', 'e', 'E'].contains then .badNumber "float"
    else if word.take 2 = ['0', 'x'] || word.take 2 = ['0', 'o'] || word.take 2 = ['0', 'b'] then
      .badNumber "integer"
    else .unquotedText

def valueComplaint? (text : Text) (mark : Mark) : Option Complaint :=
  if text.head? = some '"' || text.head? = some '\'' then
    match quotation? text with
    | some (_, []) => none
    | _ => some (stringComplaint text mark)
  else if (scalar? text).isSome then none
  else some ⟨wordFault text, mark⟩

def complaint? : Part → Option Complaint
  | key text mark => keyComplaint? text mark
  | value text mark => valueComplaint? text mark

def isKey : Part → Bool
  | key .. => true
  | value .. => false

end Part

/-- The complaint about one expression, whose outline does not break. -/
def diagnoseParts (parts : List Part) : Complaint :=
  match parts.findSome? Part.complaint? with
  | some complaint => complaint
  | none =>
    let keys := parts.takeWhile Part.isKey
    ⟨.keyTaken, (keys.getLast?.map Part.mark).getD ⟨0, 0⟩⟩

/-- The complaint about a text of which `rest` cannot be read. -/
def diagnose (text rest : Text) : Complaint :=
  match outline (dropByteOrderMark text) with
  | .error complaint => complaint
  | .ok expressions =>
    let refused := expressions.find? fun parts =>
      parts.head?.any fun part => part.mark.start ≤ rest.length
    diagnoseParts (refused.getD [])

end Retouch.Toml
