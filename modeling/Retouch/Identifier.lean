import Retouch.Token.Reader

/-!
# Identifiers

A text is read as an identifier if it has one token, which is a name and no keyword. White space
and comments around the name are allowed.
-/

namespace Retouch

inductive IdentifierError where
  | notTokens
  | noToken
  | keyword (word : Text)
  | otherToken
  | moreTokens
deriving DecidableEq

def IdentifierError.message : IdentifierError → String
  | notTokens => "cannot parse string into token stream"
  | noToken => "unexpected end of input, expected identifier"
  | keyword word => s!"expected identifier, found keyword `{String.ofList word}`"
  | otherToken => "expected identifier"
  | moreTokens => "unexpected token"

/-- The spelling of the identifier that a text holds. -/
def readIdentifier (text : Text) : Except IdentifierError Text :=
  match Token.tokens? text with
  | none => .error .notTokens
  | some [] => .error .noToken
  | some (.name spelling :: rest) =>
    if Token.keywords.contains (String.ofList spelling) then .error (.keyword spelling)
    else if rest.isEmpty then .ok spelling
    else .error .moreTokens
  | some _ => .error .otherToken

end Retouch
