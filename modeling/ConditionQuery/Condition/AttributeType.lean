import ConditionQuery.Json.Decode

/-! Declared types of attributes. -/
namespace ConditionQuery

inductive AttributeType where
  | string
  | int
  | long
  | float
  | double
  | bool
  | object
  deriving DecidableEq, Repr, Inhabited

namespace AttributeType

def name : AttributeType → String
  | .string => "string"
  | .int => "int"
  | .long => "long"
  | .float => "float"
  | .double => "double"
  | .bool => "bool"
  | .object => "object"

/-- The name shown to a reader. -/
def label : AttributeType → String
  | .string => "STRING"
  | .int => "INT"
  | .long => "LONG"
  | .float => "FLOAT"
  | .double => "DOUBLE"
  | .bool => "BOOL"
  | .object => "OBJECT"

def naming : Json.Naming AttributeType :=
  ⟨[.string, .int, .long, .float, .double, .bool, .object], name⟩

def encode (t : AttributeType) : Json := .string t.name

def decode (stage : Json.Stage) : Json → Json.Decoded AttributeType := naming.decode stage

end AttributeType
end ConditionQuery
