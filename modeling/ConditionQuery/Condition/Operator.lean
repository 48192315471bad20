import ConditionQuery.Json.Decode

/-! Comparison and arithmetic operators: their names in documents, their symbols shown to a reader
and their symbols in a statement. -/
namespace ConditionQuery

inductive CompareOp where
  | equal
  | notEqual
  | greaterThan
  | greaterThanEqual
  | lessThan
  | lessThanEqual
  deriving DecidableEq, Repr, Inhabited

namespace CompareOp

def name : CompareOp → String
  | .equal => "equal"
  | .notEqual => "not_equal"
  | .greaterThan => "greater_than"
  | .greaterThanEqual => "greater_than_equal"
  | .lessThan => "less_than"
  | .lessThanEqual => "less_than_equal"

/-- The symbol of the stream query language. -/
def display : CompareOp → String
  | .equal => "=="
  | .notEqual => "!="
  | .greaterThan => ">"
  | .greaterThanEqual => ">="
  | .lessThan => "<"
  | .lessThanEqual => "<="

/-- The symbol of the store's query language. -/
def token : CompareOp → String
  | .equal => "="
  | .notEqual => "!="
  | .greaterThan => ">"
  | .greaterThanEqual => ">="
  | .lessThan => "<"
  | .lessThanEqual => "<="

def naming : Json.Naming CompareOp :=
  ⟨[.equal, .notEqual, .greaterThan, .greaterThanEqual, .lessThan, .lessThanEqual], name⟩

def encode (op : CompareOp) : Json := .string op.name

def decode (stage : Json.Stage) : Json → Json.Decoded CompareOp := naming.decode stage

end CompareOp

inductive MathOp where
  | add
  | subtract
  | multiply
  | divide
  | mod
  deriving DecidableEq, Repr, Inhabited

namespace MathOp

def name : MathOp → String
  | .add => "add"
  | .subtract => "subtract"
  | .multiply => "multiply"
  | .divide => "divide"
  | .mod => "mod"

/-- The symbol of both query languages. -/
def token : MathOp → String
  | .add => "+"
  | .subtract => "-"
  | .multiply => "*"
  | .divide => "/"
  | .mod => "%"

def naming : Json.Naming MathOp := ⟨[.add, .subtract, .multiply, .divide, .mod], name⟩

def encode (op : MathOp) : Json := .string op.name

def decode (stage : Json.Stage) : Json → Json.Decoded MathOp := naming.decode stage

end MathOp
end ConditionQuery
