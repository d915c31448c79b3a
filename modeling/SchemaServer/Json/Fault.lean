import SchemaServer.Json.Basic
import SchemaServer.Text.Quoted

/-! # Why a JSON text or value was refused

`Fault` lists the causes; `Fault.message` words them and `Fault.category` sorts them into texts that
end too early, texts that are no JSON, and JSON of the wrong shape. -/

namespace SchemaServer.Json

inductive Found where
  | null
  | boolean (value : Bool)
  | number (value : Number)
  | text (value : String)
  | sequence
  | map
deriving DecidableEq, Repr

def found : Json → Found
  | .null => .null
  | .bool b => .boolean b
  | .number n => .number n
  | .text s => .text s
  | .array _ => .sequence
  | .object _ => .map

def Found.message : Found → String
  | .null => "null"
  | .boolean b => "boolean `" ++ toString b ++ "`"
  | .number (.int i) => "integer `" ++ toString i ++ "`"
  | .number (.double d) => "floating point `" ++ d.text ++ "`"
  | .text s => "string " ++ Text.quoted s
  | .sequence => "sequence"
  | .map => "map"

/-- Why a text or a value was refused.  A fault says what is wrong and not where: the line and the
    column at which a text was given up are no part of it, nor of its message. -/
inductive Fault where
  -- The text ends inside a value, a list, an object or a quoted text.
  | endInValue
  | endInList
  | endInObject
  | endInText
  -- The text is no JSON.
  | expectedValue
  | expectedWord
  | expectedColon
  | expectedListEnd
  | expectedObjectEnd
  | keyNotText
  | trailingComma
  | trailingCharacters
  | invalidNumber
  | numberOutOfRange
  | invalidEscape
  | loneSurrogate
  | unfinishedEscape
  | controlCharacter
  | tooDeep
  -- The value has the wrong shape.
  | wrongType (found : Found) (expected : String)
  | wrongValue (found : Found) (expected : String)
  | wrongLength (length : Nat) (expected : String)
  | missingField (key : String)
  | repeatedField (key : String)
  | unknownVariant (name : String) (known : List String)
  | noVariant (union : String)
  | badPosition (line column : Int)
  | badUrl (reason source : String)
deriving DecidableEq, Repr

inductive Category where
  | truncated
  | malformed
  | misshapen
deriving DecidableEq, Repr

/-- Alternatives in words: each between backticks. -/
def alternatives : List String → String
  | [] => "there are no variants"
  | [a] => "expected `" ++ a ++ "`"
  | [a, b] => "expected `" ++ a ++ "` or `" ++ b ++ "`"
  | names => "expected one of " ++ String.intercalate ", " (names.map fun n => "`" ++ n ++ "`")

def badPositionMessage (line column : Int) : String :=
  "analyzer coordinates must be 1-based, got (" ++ toString line ++ ", " ++ toString column ++ ")"

def Fault.message : Fault → String
  | .endInValue => "EOF while parsing a value"
  | .endInList => "EOF while parsing a list"
  | .endInObject => "EOF while parsing an object"
  | .endInText => "EOF while parsing a string"
  | .expectedValue => "expected value"
  | .expectedWord => "expected ident"
  | .expectedColon => "expected `:`"
  | .expectedListEnd => "expected `,` or `]`"
  | .expectedObjectEnd => "expected `,` or `\x7d`"
  | .keyNotText => "key must be a string"
  | .trailingComma => "trailing comma"
  | .trailingCharacters => "trailing characters"
  | .invalidNumber => "invalid number"
  | .numberOutOfRange => "number out of range"
  | .invalidEscape => "invalid escape"
  | .loneSurrogate => "lone leading surrogate in hex escape"
  | .unfinishedEscape => "unexpected end of hex escape"
  | .controlCharacter => "control character (\\u0000-\\u001F) found while parsing a string"
  | .tooDeep => "recursion limit exceeded"
  | .wrongType found expected => "invalid type: " ++ found.message ++ ", expected " ++ expected
  | .wrongValue found expected => "invalid value: " ++ found.message ++ ", expected " ++ expected
  | .wrongLength length expected =>
    "invalid length " ++ toString length ++ ", expected " ++ expected
  | .missingField key => "missing field `" ++ key ++ "`"
  | .repeatedField key => "duplicate field `" ++ key ++ "`"
  | .unknownVariant name known => "unknown variant `" ++ name ++ "`, " ++ alternatives known
  | .noVariant union => "data did not match any variant of untagged enum " ++ union
  | .badPosition line column => badPositionMessage line column
  | .badUrl reason source => reason ++ ": " ++ Text.quoted source

def Fault.category : Fault → Category
  | .endInValue | .endInList | .endInObject | .endInText => .truncated
  | .expectedValue | .expectedWord | .expectedColon | .expectedListEnd | .expectedObjectEnd
  | .keyNotText | .trailingComma | .trailingCharacters | .invalidNumber | .numberOutOfRange
  | .invalidEscape | .loneSurrogate | .unfinishedEscape | .controlCharacter | .tooDeep =>
    .malformed
  | .wrongType .. | .wrongValue .. | .wrongLength .. | .missingField .. | .repeatedField ..
  | .unknownVariant .. | .noVariant .. | .badPosition .. | .badUrl .. => .misshapen

end SchemaServer.Json
