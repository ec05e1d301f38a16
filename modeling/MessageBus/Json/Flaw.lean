import MessageBus.Text.Quoted
import MessageBus.Text.Bytes
/-!
# What can be wrong with a JSON text

A flaw has a cause and, almost always, a place: a number of bytes from the start, shown as a line and a column.
-/

namespace MessageBus.Json

/-- What a reader was in the middle of when the text ended. -/
inductive Part where
  | list
  | object
  | string
  | value
  deriving DecidableEq, Repr

/-- What a reader came upon in the place of what it expected. -/
inductive Found where
  | null
  | flag (b : Bool)
  | integer (n : Int)
  /-- A number with a fraction or an exponent, or too large for an integer; its shortest text. -/
  | float (shown : String)
  | text (s : String)
  | sequence
  | map
  | unitVariant
  deriving DecidableEq, Repr

/-- Why a text is not the value that is wanted. -/
inductive Cause where
  | unfinished (p : Part)
  | expectedColon
  | expectedCommaOrBracket
  | expectedCommaOrBrace
  | expectedIdent
  | expectedValue
  | invalidEscape
  | invalidNumber
  | numberOutOfRange
  | invalidCodePoint
  | controlCharacter
  | keyNotText
  | loneSurrogate
  | unfinishedSurrogate
  | trailingComma
  | trailingCharacters
  | tooDeep
  | wrongType (found : Found) (expected : String)
  | wrongValue (found : Found) (expected : String)
  | wrongLength (length : Nat) (expected : String)
  | missingField (name : String)
  | duplicateField (name : String)
  | unknownVariant (name : String) (known : List String)
  deriving DecidableEq, Repr

/-- A cause, and where the reader stood: none if the cause does not lie at one place. -/
structure Flaw where
  cause : Cause
  place : Option Nat
  deriving DecidableEq, Repr

/-- The part in words. -/
def Part.name : Part → String
  | list => "a list"
  | object => "an object"
  | string => "a string"
  | value => "a value"

/-- What was found, in words. -/
def Found.name : Found → String
  | null => "null"
  | flag b => "boolean `" ++ (if b then "true" else "false") ++ "`"
  | integer n => "integer `" ++ toString n ++ "`"
  | float shown => "floating point `" ++ shown ++ "`"
  | text s => "string " ++ Text.quoted s
  | sequence => "sequence"
  | map => "map"
  | unitVariant => "unit variant"

/-- A list of names as alternatives: each between back quotes, two joined by "or", more after "one of". -/
def alternatives : List String → String
  | [] => "there are no variants"
  | [a] => "expected `" ++ a ++ "`"
  | [a, b] => "expected `" ++ a ++ "` or `" ++ b ++ "`"
  | names => "expected one of " ++ ", ".intercalate (names.map fun n => "`" ++ n ++ "`")

/-- The cause in words. -/
def Cause.message : Cause → String
  | unfinished p => "EOF while parsing " ++ p.name
  | expectedColon => "expected `:`"
  | expectedCommaOrBracket => "expected `,` or `]`"
  | expectedCommaOrBrace => "expected `,` or `\x7d`"
  | expectedIdent => "expected ident"
  | expectedValue => "expected value"
  | invalidEscape => "invalid escape"
  | invalidNumber => "invalid number"
  | numberOutOfRange => "number out of range"
  | invalidCodePoint => "invalid unicode code point"
  | controlCharacter => "control character (\\u0000-\\u001F) found while parsing a string"
  | keyNotText => "key must be a string"
  | loneSurrogate => "lone leading surrogate in hex escape"
  | unfinishedSurrogate => "unexpected end of hex escape"
  | trailingComma => "trailing comma"
  | trailingCharacters => "trailing characters"
  | tooDeep => "recursion limit exceeded"
  | wrongType found expected => "invalid type: " ++ found.name ++ ", expected " ++ expected
  | wrongValue found expected => "invalid value: " ++ found.name ++ ", expected " ++ expected
  | wrongLength n expected => "invalid length " ++ toString n ++ ", expected " ++ expected
  | missingField name => "missing field `" ++ name ++ "`"
  | duplicateField name => "duplicate field `" ++ name ++ "`"
  | unknownVariant name known => "unknown variant `" ++ name ++ "`, " ++ alternatives known

/-- The line (from 1) and the column (from 0) after the first `n` bytes. -/
def position (text : Bytes) (n : Nat) : Nat × Nat :=
  (text.take n).foldl (fun (lc : Nat × Nat) b => if b = 0x0a then (lc.1 + 1, 0) else (lc.1, lc.2 + 1)) (1, 0)

/-- The flaw of a text in words. -/
def Flaw.message (text : Bytes) (f : Flaw) : String :=
  match f.place with
  | none => f.cause.message
  | some n =>
    let (line, column) := position text n
    f.cause.message ++ " at line " ++ toString line ++ " column " ++ toString column

end MessageBus.Json
