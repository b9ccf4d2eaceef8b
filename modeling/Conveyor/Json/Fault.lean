import Conveyor.Text.Base64
import Conveyor.Text.Quoted

/-!
# Faults of documents

What can be wrong with a document: its text is no JSON, or it is JSON of another shape than the
reader expects. The first fault on the way from left to right is the one that is reported.
-/

namespace Conveyor.Json

/-- What stands at a place of a document where something else was expected. -/
inductive Found
  | integer (n : Int)
  | fraction
  | text (s : String)
  | boolean (b : Bool)
  | null
  | list
  | object
deriving DecidableEq, Inhabited

def Found.message : Found → String
  | .integer n => "integer `" ++ toString n ++ "`"
  | .fraction  => "floating point"
  | .text s    => "string " ++ Text.quoted s
  | .boolean b => "boolean `" ++ toString b ++ "`"
  | .null      => "null"
  | .list      => "sequence"
  | .object    => "map"

/-- A fault of a document. -/
inductive Fault
  /-- The document ends where a value goes on or should begin. -/
  | endInValue
  | endInObject
  | endInList
  | endInText
  | trailingCharacters
  /-- A comma stands before the end of a list or an object. -/
  | trailingComma
  | expectedValue
  | expectedIdent
  | expectedColon
  | expectedObjectCommaOrEnd
  | expectedListCommaOrEnd
  /-- A key of an object is no text. -/
  | keyNotText
  | invalidNumber
  /-- A number is too large for a floating point number. -/
  | numberOutOfRange
  | invalidEscape
  /-- Half of a surrogate pair stands alone. -/
  | loneSurrogate
  /-- The first half of a surrogate pair is not followed by an escape. -/
  | endOfHexEscape
  | controlCharacter
  /-- A value has another type. -/
  | invalidType (found : Found) (expected : String)
  /-- A value has the right type and is not admitted. -/
  | invalidValue (found : Found) (expected : String)
  /-- A list has too few elements. -/
  | invalidLength (length : Nat) (expected : String)
  | missingField (name : String)
  | duplicateField (name : String)
  /-- A text does not stand for bytes. -/
  | content (cause : Text.Base64.Error)
deriving DecidableEq, Inhabited

def Fault.message : Fault → String
  | .endInValue               => "EOF while parsing a value"
  | .endInObject              => "EOF while parsing an object"
  | .endInList                => "EOF while parsing a list"
  | .endInText                => "EOF while parsing a string"
  | .trailingCharacters       => "trailing characters"
  | .trailingComma            => "trailing comma"
  | .expectedValue            => "expected value"
  | .expectedIdent            => "expected ident"
  | .expectedColon            => "expected `:`"
  | .expectedObjectCommaOrEnd => "expected `,` or `\x7d`"
  | .expectedListCommaOrEnd   => "expected `,` or `]`"
  | .keyNotText               => "key must be a string"
  | .invalidNumber            => "invalid number"
  | .numberOutOfRange         => "number out of range"
  | .invalidEscape            => "invalid escape"
  | .loneSurrogate            => "lone leading surrogate in hex escape"
  | .endOfHexEscape           => "unexpected end of hex escape"
  | .controlCharacter         =>
    "control character (\\u0000-\\u001F) found while parsing a string"
  | .invalidType found expected =>
    "invalid type: " ++ found.message ++ ", expected " ++ expected
  | .invalidValue found expected =>
    "invalid value: " ++ found.message ++ ", expected " ++ expected
  | .invalidLength length expected =>
    "invalid length " ++ toString length ++ ", expected " ++ expected
  | .missingField name   => "missing field `" ++ name ++ "`"
  | .duplicateField name => "duplicate field `" ++ name ++ "`"
  | .content cause       => cause.message

end Conveyor.Json
