import ConditionQuery.Decimal.Layout
import ConditionQuery.Json.Basic
import ConditionQuery.Text.Quoted

/-! Why a JSON text or value could not be read as the wanted type: the cause, the place in the text
if there is one, and the way to the value in question. -/
namespace ConditionQuery.Json

/-- A text that is no JSON document. -/
inductive Malformed where
  | endInValue
  | endInString
  | endInList
  | endInObject
  | expectedColon
  | expectedListEnd
  | expectedObjectEnd
  | expectedWord
  | expectedValue
  | expectedQuote
  | invalidEscape
  | invalidNumber
  | numberOutOfRange
  | controlCharacter
  | keyNotString
  | keyNotNumeric
  | loneSurrogate
  | notUtf8
  | endInEscape
  | trailingComma
  | trailingCharacters
  | tooDeep
  deriving DecidableEq, Repr

def Malformed.message : Malformed → String
  | .endInValue => "EOF while parsing a value"
  | .endInString => "EOF while parsing a string"
  | .endInList => "EOF while parsing a list"
  | .endInObject => "EOF while parsing an object"
  | .expectedColon => "expected `:`"
  | .expectedListEnd => "expected `,` or `]`"
  | .expectedObjectEnd => "expected `,` or `\x7d`"
  | .expectedWord => "expected ident"
  | .expectedValue => "expected value"
  | .expectedQuote => "expected `\"`"
  | .invalidEscape => "invalid escape"
  | .invalidNumber => "invalid number"
  | .numberOutOfRange => "number out of range"
  | .controlCharacter => "control character (\\u0000-\\u001F) found while parsing a string"
  | .keyNotString => "key must be a string"
  | .keyNotNumeric => "invalid value: expected key to be a number in quotes"
  | .notUtf8 => "invalid unicode code point"
  | .loneSurrogate => "lone leading surrogate in hex escape"
  | .endInEscape => "unexpected end of hex escape"
  | .trailingComma => "trailing comma"
  | .trailingCharacters => "trailing characters"
  | .tooDeep => "recursion limit exceeded"

/-- What stands where something else was expected. -/
inductive Found where
  | null
  | bool (b : Bool)
  | int (n : Int)
  | double (d : Binary64)
  | string (s : String)
  | sequence
  | map
  deriving DecidableEq, Repr

def Found.describe : Found → String
  | .null => "null"
  | .bool b => "boolean `" ++ (if b then "true" else "false") ++ "`"
  | .int n => "integer `" ++ toString n ++ "`"
  | .double d => "floating point `" ++ DoubleLayout.document.write d ++ "`"
  | .string s => "string " ++ Text.quoted s
  | .sequence => "sequence"
  | .map => "map"

def found : Json → Found
  | .null => .null
  | .bool b => .bool b
  | .int n => .int n
  | .double d => .double d
  | .string s => .string s
  | .array _ => .sequence
  | .object _ => .map

/-- A document that is not of the wanted type. -/
inductive Mismatch where
  | invalidType (found : Found) (expected : String)
  | invalidValue (found : Found) (expected : String)
  | invalidLength (length : Nat) (expected : String)
  | unknownVariant (name : String) (known : List String)
  | missingField (name : String)
  | duplicateField (name : String)
  | noVariant (type : String)
  deriving DecidableEq, Repr

def oneOf : List String → String
  | [] => "there are no variants"
  | [a] => "expected `" ++ a ++ "`"
  | [a, b] => "expected `" ++ a ++ "` or `" ++ b ++ "`"
  | names => "expected one of " ++ ", ".intercalate (names.map fun name => "`" ++ name ++ "`")

def Mismatch.message : Mismatch → String
  | .invalidType found expected => "invalid type: " ++ found.describe ++ ", expected " ++ expected
  | .invalidValue found expected => "invalid value: " ++ found.describe ++ ", expected " ++ expected
  | .invalidLength length expected =>
    "invalid length " ++ toString length ++ ", expected " ++ expected
  | .unknownVariant name known => "unknown variant `" ++ name ++ "`, " ++ oneOf known
  | .missingField name => "missing field `" ++ name ++ "`"
  | .duplicateField name => "duplicate field `" ++ name ++ "`"
  | .noVariant type => "data did not match any variant of untagged enum " ++ type

inductive Cause where
  | malformed (cause : Malformed)
  | mismatch (cause : Mismatch)
  deriving DecidableEq, Repr

def Cause.message : Cause → String
  | .malformed cause => cause.message
  | .mismatch cause => cause.message

/-- A place in a text: lines count from one, columns are the bytes before it on its line. -/
structure Position where
  line : Nat
  column : Nat
  deriving DecidableEq, Repr

inductive Step where
  | key (name : String)
  | index (n : Nat)
  deriving DecidableEq, Repr

structure Failure where
  cause : Cause
  position : Option Position
  path : List Step
  deriving DecidableEq, Repr

namespace Failure

def ofMismatch (cause : Mismatch) : Failure := ⟨.mismatch cause, none, []⟩

def under (step : Step) (failure : Failure) : Failure :=
  { failure with path := step :: failure.path }

def placedAt (position : Position) (failure : Failure) : Failure :=
  { failure with position := some (failure.position.getD position) }

def isMalformed (failure : Failure) : Bool :=
  match failure.cause with
  | .malformed _ => true
  | .mismatch _ => false

def message (failure : Failure) : String :=
  match failure.position with
  | none => failure.cause.message
  | some p =>
    failure.cause.message ++ " at line " ++ toString p.line ++ " column " ++ toString p.column

/-- Keys are parted by points; an index stands in brackets. -/
def pathText : List Step → String
  | [] => ""
  | .index n :: rest => "[" ++ toString n ++ "]" ++ continued rest
  | .key name :: rest => name ++ continued rest
where
  continued : List Step → String
    | [] => ""
    | .index n :: rest => "[" ++ toString n ++ "]" ++ continued rest
    | .key name :: rest => "." ++ name ++ continued rest

/-- The message after the path to the value in question. -/
def messageWithPath (failure : Failure) : String :=
  if failure.path.isEmpty then failure.message
  else pathText failure.path ++ ": " ++ failure.message

end Failure
end ConditionQuery.Json
