import OrderRelay.Text.Quoted

/-!
# What can be wrong with a document

A document is refused for its first fault: something that is no JSON, or a value that is not what is
wanted. The message ends with the place, a line and the number of bytes of it that were read.

* `Cause`, with `Found`, what stands in the place of something wanted;
* `Fault`, a cause with its place, if it has one.
-/

namespace OrderRelay.Json

open Text

/-- What was found. -/
inductive Found where
  | null
  | flag (b : Bool)
  | integer (n : Int)
  /-- A number with a fraction or an exponent, or too large for a word, as it is shown. -/
  | floating (shown : String)
  | text (s : String)
  | list
  | object
deriving DecidableEq, Repr

/-- What was found, in words. -/
def Found.name : Found → String
  | null => "null"
  | flag b => "boolean `" ++ (if b then "true" else "false") ++ "`"
  | integer n => "integer `" ++ toString n ++ "`"
  | floating shown => "floating point `" ++ shown ++ "`"
  | text s => "string " ++ quoted s
  | list => "sequence"
  | object => "map"

/-- What is wrong. -/
inductive Cause where
  | eofInList
  | eofInObject
  | eofInString
  | eofBeforeValue
  | expectedColon
  | expectedListCommaOrEnd
  | expectedObjectCommaOrEnd
  | expectedWord
  | expectedValue
  | invalidEscape
  | invalidNumber
  | numberOutOfRange
  | invalidCodePoint
  | controlCharacter
  | keyMustBeString
  | loneSurrogate
  | trailingComma
  | trailingCharacters
  | endOfHexEscape
  | wrongType (found : Found) (wanted : String)
  | wrongValue (found : Found) (wanted : String)
  | wrongLength (length : Nat) (wanted : String)
  | missingMember (name : String)
  | repeatedMember (name : String)
  | unknownVariant (name : String) (known : List String)
  /-- The value is refused for a reason of its own. -/
  | refused (reason : String)
deriving DecidableEq, Repr

/-- The cause in words. -/
def Cause.message : Cause → String
  | eofInList => "EOF while parsing a list"
  | eofInObject => "EOF while parsing an object"
  | eofInString => "EOF while parsing a string"
  | eofBeforeValue => "EOF while parsing a value"
  | expectedColon => "expected `:`"
  | expectedListCommaOrEnd => "expected `,` or `]`"
  | expectedObjectCommaOrEnd => "expected `,` or `\x7d`"
  | expectedWord => "expected ident"
  | expectedValue => "expected value"
  | invalidEscape => "invalid escape"
  | invalidNumber => "invalid number"
  | numberOutOfRange => "number out of range"
  | invalidCodePoint => "invalid unicode code point"
  | controlCharacter => "control character (\\u0000-\\u001F) found while parsing a string"
  | keyMustBeString => "key must be a string"
  | loneSurrogate => "lone leading surrogate in hex escape"
  | trailingComma => "trailing comma"
  | trailingCharacters => "trailing characters"
  | endOfHexEscape => "unexpected end of hex escape"
  | wrongType found wanted => "invalid type: " ++ found.name ++ ", expected " ++ wanted
  | wrongValue found wanted => "invalid value: " ++ found.name ++ ", expected " ++ wanted
  | wrongLength length wanted => "invalid length " ++ toString length ++ ", expected " ++ wanted
  | missingMember name => "missing field `" ++ name ++ "`"
  | repeatedMember name => "duplicate field `" ++ name ++ "`"
  | unknownVariant name known =>
    "unknown variant `" ++ name ++ "`, expected one of " ++
      ", ".intercalate (known.map fun k => "`" ++ k ++ "`")
  | refused reason => reason

/-- A place in a document: a line, counted from one, and the number of its bytes before the place. -/
structure Place where
  line : Nat
  column : Nat
deriving DecidableEq, Repr

/-- A cause with its place. -/
structure Fault where
  cause : Cause
  place : Option Place
deriving DecidableEq, Repr

/-- The message of a fault. -/
def Fault.message (f : Fault) : String :=
  f.cause.message ++ match f.place with
    | none => ""
    | some at' => " at line " ++ toString at'.line ++ " column " ++ toString at'.column

end OrderRelay.Json
