import Retouch.Toml.Document
import Retouch.Toml.Quotation

/-!
# Reading TOML

`read` gives the entries of a document, or says from where on a text is no TOML document. Each
reader returns what it read and the rest of the text. Readers that call themselves have fuel, which
`read` computes from the length of the text.
-/

namespace Retouch.Toml

def skipGap : Text → Bool → Option Text
  | [], _ => some []
  | c :: text, inComment =>
    if c = '\n' then skipGap text false
    else if c = '\r' then if text.head? = some '\n' then skipGap text inComment else none
    else if inComment then if isPlain c then skipGap text true else none
    else if isBlank c then skipGap text false
    else if c = '#' then skipGap text true
    else some (c :: text)

def skipComment : Text → Option Text
  | [] => some []
  | c :: text =>
    if startsWithNewline (c :: text) then some (c :: text)
    else if isPlain c then skipComment text
    else none

def skipBlanks (text : Text) : Text := text.dropWhile isBlank

def lineEnd (text : Text) : Option Text := do
  let text ← match skipBlanks text with
    | '#' :: text => skipComment text
    | text => some text
  if text.isEmpty || startsWithNewline text then some (dropNewline text) else none

def isBareKeyChar (c : Char) : Bool := c.isAlphanum || c == '_' || c == '-'

def simpleKey? (text : Text) : Option (Key × Text) := do
  let (name, rest) ← match text with
    | '"' :: text => basicBody text 0
    | '\'' :: text => literalBody text
    | text =>
      let name := text.takeWhile isBareKeyChar
      if name.isEmpty then none else some (name, text.dropWhile isBareKeyChar)
  return (⟨name, ⟨text.length, rest.length⟩⟩, rest)

/-- How deep arrays and inline tables may be nested, and how many keys a dotted key may have. -/
def maxDepth : Nat := 80

/-- A key with dots: the keys before the last one, and the last one. The rest starts after
blanks. `room` is the number of keys that there may be. -/
def dottedKey? : Nat → Text → Option (List Key × Key × Text)
  | 0, _ => none
  | room + 1, text => do
    let (key, rest) ← simpleKey? text
    match skipBlanks rest with
    | '.' :: rest =>
      let (path, last, rest) ← dottedKey? room (skipBlanks rest)
      return (key :: path, last, rest)
    | rest => return ([], key, rest)

def expect? (c : Char) : Text → Option Text
  | [] => none
  | d :: text => if c = d then some text else none

mutual

def value? : Nat → Nat → Text → Option (Value × Text)
  | 0, _, _ => none
  | fuel + 1, room, text =>
    match text, room with
    | '[' :: _, 0 | '\x7b' :: _, 0 => none
    | '[' :: rest, room + 1 => (elements? fuel room rest).map fun rest => (.array, rest)
    | '\x7b' :: rest, room + 1 => (members? fuel room [] rest).map fun rest => (.table, rest)
    | '"' :: _, _ | '\'' :: _, _ =>
      (quotation? text).map fun (body, rest) => (.string body, rest)
    | _, _ =>
      let (word, rest) := scalarWord text
      (scalar? word).map fun value => (value, rest)

def elements? : Nat → Nat → Text → Option Text
  | 0, _, _ => none
  | fuel + 1, room, text =>
    match skipGap text false with
    | some (']' :: rest) => some rest
    | some text =>
      match value? fuel room text with
      | some (_, rest) =>
        match skipGap rest false with
        | some (',' :: rest) => elements? fuel room rest
        | some (']' :: rest) => some rest
        | _ => none
      | none => none
    | none => none

def members? : Nat → Nat → Entries → Text → Option Text
  | 0, _, _, _ => none
  | fuel + 1, room, entries, text =>
    match skipGap text false with
    | some ('\x7d' :: rest) => some rest
    | some text =>
      match keyValue? fuel room (skipGap · false) text with
      | some (path, key, item, rest) =>
        match entries.assign path key item, skipGap rest false with
        | some entries, some (',' :: rest) => members? fuel room entries rest
        | some _, some ('\x7d' :: rest) => some rest
        | _, _ => none
      | none => none
    | none => none

/-- A key and its value. `skip` skips what may stand around the equals sign. -/
def keyValue? :
    Nat → Nat → (Text → Option Text) → Text → Option (List Key × Key × Item × Text)
  | 0, _, _, _ => none
  | fuel + 1, room, skip, text =>
    match dottedKey? maxDepth text with
    | some (path, key, rest) =>
      match ((skip rest).bind (expect? '=')).bind skip with
      | some text =>
        match value? fuel room text with
        | some (value, rest) => some (path, key, .value value ⟨text.length, rest.length⟩, rest)
        | none => none
      | none => none
    | none => none

end

def header? (text : Text) : Option (Header × Text) := do
  let isList := text.tail.head? == some '['
  let inner := text.drop (if isList then 2 else 1)
  let (path, key, rest) ← dottedKey? maxDepth (skipBlanks inner)
  let rest ← expect? ']' rest
  let rest ← if isList then expect? ']' rest else some rest
  return (⟨path, key, isList⟩, rest)

def expression? (root : Entries) (current : Section) (text : Text) :
    Option (Entries × Section × Text) := do
  if text.head? = some '[' then
    let (header, rest) ← header? text
    let root ← current.finish root
    let (current, root) ← Section.start header ⟨text.length, rest.length⟩ root
    return (root, current, ← lineEnd rest)
  else
    let (path, key, item, rest) ←
      keyValue? (4 * text.length + 4) maxDepth (some ∘ skipBlanks) text
    return (root, ← current.assign path key item, ← lineEnd rest)

/-- Reads expressions, one a line, into the current section. It fails with the text from the first
expression on that cannot be read. -/
def expressions : Nat → Entries → Section → Text → Except Text Entries
  | 0, _, _, text => .error text
  | fuel + 1, root, current, text =>
    match skipGap text false with
    | none => .error text
    | some [] =>
      match current.finish root with
      | some root => .ok root
      | none => .error []
    | some text =>
      match expression? root current text with
      | some (root, current, rest) => expressions fuel root current rest
      | none => .error text

def dropByteOrderMark : Text → Text
  | '\ufeff' :: text => text
  | text => text

def read (text : Text) : Except Text Entries :=
  let text := dropByteOrderMark text
  expressions (text.length + 1) [] ⟨none, ⟨text.length, text.length⟩, []⟩ text

end Retouch.Toml
